import CodeOutline.Proofs.Text.Words
import CodeOutline.Proofs.Token.Covering

/-!
# Reading a token again

A token is cut out of its line as far as it goes, and shows as a text of its own. Read on its own,
this text is the same token again: nothing stands behind it that could have made the token end where
it ended, and none of its beginnings is read as another token. A note shows with one space behind
its sign, whatever stood there in the line, and blanks do not belong to its text.

## Main results

* `Lexeme.Cuts.exists_written`: a lexeme of a line is written somewhere in the line
* `Token.Written.written_text`: the text that a token shows as is one of the ways to write it
* `Lexeme.ofLine_text`: a token that was read is read again from its text
-/

namespace CodeOutline

open Token

variable {cs text body : List Char} {offset : Nat} {lexemes : List Lexeme} {token : Token}

namespace Text

theorem trim_trim (cs : List Char) : trim (trim cs) = trim cs := by
  cases htrim : trim cs with
  | nil => rfl
  | cons c rest =>
    obtain ⟨hc, -⟩ := of_trim_eq_cons htrim
    have hlast : ∀ d ∈ (trim cs).getLast?, isBlank d = false := fun d hd =>
      isBlank_of_getLast?_trimEnd hd
    rw [htrim] at hlast
    exact trim_eq_self (by simpa using hc) hlast

theorem trim_cons_of_isBlank {c : Char} (h : isBlank c = true) (cs : List Char) :
    trim (c :: cs) = trim cs := by
  rw [trim, trimStart, List.dropWhile_cons_of_pos h, ← trimStart, ← trim]

end Text

namespace Token

/-! ### The text of a token -/

/-- A note shows as its sign and its text, with a space between them if there is a text. -/
theorem toList_text_note (text : String) : (Token.note text).text.toList =
    '#' :: if text = "" then [] else ' ' :: text.toList := by
  by_cases h : text = "" <;> simp [Token.text, h]

theorem written_note_text (body : List Char) :
    (Token.note (String.ofList (Text.trim body))).Written
      (Token.note (String.ofList (Text.trim body))).text.toList := by
  rw [toList_text_note]
  split
  · rename_i hempty
    rw [hempty]
    exact .note []
  · have hwritten := Written.note (' ' :: Text.trim body)
    rwa [Text.trim_cons_of_isBlank (by decide), Text.trim_trim, String.toList_ofList] at *

/-- A token can be written as it shows. -/
theorem Written.written_text (h : token.Written text) : token.Written token.text.toList := by
  cases token with
  | note =>
    cases h with
    | note body => exact written_note_text body
  | _ => rwa [h.text_eq (by simp), String.toList_ofList]

/-- What a token shows as is on one line if it is written on one line. -/
theorem Written.newline_notMem_text (h : token.Written text) (hline : '\n' ∉ text) :
    '\n' ∉ token.text.toList := by
  cases token with
  | note =>
    cases h with
    | note body =>
      have hbody : '\n' ∉ Text.trim body := fun hmem =>
        hline (List.mem_cons_of_mem _ (Text.mem_of_mem_trim hmem))
      rw [toList_text_note]
      split <;> simp [hbody]
  | _ => rwa [h.text_eq (by simp), String.toList_ofList]

end Token

namespace Lexeme

/-- A token that is written out is the only lexeme of its text. -/
theorem scanAll_of_written (h : token.Written text) :
    scanAll 0 text = [⟨token, 0, Text.byteLength text⟩] := by
  have hreads : Reads 0 _ _ := .last isGapText_nil h
  have hscan := hreads.scanAll_eq
  simpa using hscan

/-- A lexeme that is no content is written somewhere in the text that it was cut from. -/
theorem Cuts.exists_written (h : Cuts offset cs lexemes) :
    ∀ lexeme ∈ lexemes, (∀ content, lexeme.token ≠ .content content) →
      ∃ text, lexeme.token.Written text ∧ text <:+: cs := by
  induction h with
  | nil => simp
  | content => simp
  | @cons offset gap text rest token more hgap hwritten hends hmore ih =>
    refine List.forall_mem_cons.2 ⟨fun _ => ⟨text, hwritten, gap, rest, by simp⟩, ?_⟩
    intro lexeme hlexeme hcontent
    obtain ⟨part, hpart, hwithin⟩ := ih lexeme hlexeme hcontent
    exact ⟨part, hpart, hwithin.trans ⟨gap ++ text, [], by simp⟩⟩

/-- **A token that was read is read again from its text**: the text has this one lexeme, and it goes
from the first byte to the last. -/
theorem ofLine_text (input : String) : ∀ lexeme ∈ ofLine input,
    (∀ content, lexeme.token ≠ .content content) →
      ofLine lexeme.token.text = [⟨lexeme.token, 0, lexeme.token.text.utf8ByteSize⟩] := by
  intro lexeme hlexeme hcontent
  obtain ⟨text, hwritten, hwithin⟩ :=
    (cuts_scanAll 0 (firstLine input)).exists_written lexeme hlexeme hcontent
  have hline : '\n' ∉ text := fun hmem =>
    Text.newline_notMem_headD_lines input.toList (hwithin.subset hmem)
  have hnewline := hwritten.newline_notMem_text hline
  have hscan := scanAll_of_written hwritten.written_text
  rwa [← ofLine_ofList hnewline, Text.byteLength_eq_utf8ByteSize, String.ofList_toList] at hscan

/-- The digits of a fraction, a name that only starts like that of a variable, and a note with
blanks behind its sign that are no gaps. -/
theorem ofLine_text_mixed_line :
    let input := "varX-y=1.25.3 #\u00A0 Σ é\t"
    let lexeme : Lexeme := ⟨.note "Σ é", 14, 24⟩
    ofLine input = [⟨.identifier "varX-y", 0, 6⟩, ⟨.equals, 6, 7⟩, ⟨.number "1.25", 7, 11⟩,
      ⟨.extension "3", 11, 13⟩, lexeme] ∧
    (∀ content, lexeme.token ≠ .content content) ∧ lexeme ∈ ofLine input ∧
      ofLine lexeme.token.text = [⟨lexeme.token, 0, lexeme.token.text.utf8ByteSize⟩] := by
  intro input lexeme
  have hread : ofLine input = [⟨.identifier "varX-y", 0, 6⟩, ⟨.equals, 6, 7⟩,
      ⟨.number "1.25", 7, 11⟩, ⟨.extension "3", 11, 13⟩, lexeme] := by decide +kernel
  have hmem : lexeme ∈ ofLine input := by rw [hread]; simp
  have hcontent : ∀ content, lexeme.token ≠ .content content := by simp [lexeme]
  exact ⟨hread, hcontent, hmem, ofLine_text input lexeme hmem hcontent⟩

end Lexeme

end CodeOutline
