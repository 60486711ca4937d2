import CodeOutline.Proofs.Statement.Names

/-!
# How tokens are written

Reading a token from the front of a text is described without the rules by which it is read: a token
is written in certain ways, and it goes on as long as it can. So what is read is a token if and only
if it is written like one and what follows cannot belong to it.

## Main definitions

* `Token.IsName`, `Token.IsWord`, `Token.IsNumber`, `Token.IsStringBody`, `Token.IsSegments`: the
  texts that tokens are made of
* `Token.Written`: how a token is written
* `Token.EndsBefore`: a text can follow a token without being part of it

## Main results

* `Token.scan_eq_some_iff`: what the first token of a text is
-/

namespace CodeOutline.Token

variable {p : Char → Bool} {cs text word name digits body more rest : List Char} {c : Char}
  {token : Token}

/-! ### Runs of characters -/

/-- A text does not start with a character of some class. -/
def StopsAt (p : Char → Bool) (cs : List Char) : Prop :=
  ∀ c ∈ cs.head?, p c = false

@[simp] theorem stopsAt_nil (p : Char → Bool) : StopsAt p [] := by
  simp [StopsAt]

@[simp] theorem stopsAt_cons : StopsAt p (c :: cs) ↔ p c = false := by
  simp [StopsAt]

theorem StopsAt.mono {q : Char → Bool} (h : StopsAt p cs) (himp : ∀ c, q c = true → p c = true) :
    StopsAt q cs := by
  intro c hc
  have hp := h c hc
  rw [Bool.eq_false_iff] at hp ⊢
  exact fun hq => hp (himp c hq)

theorem stopsAt_dropWhile (p : Char → Bool) (cs : List Char) : StopsAt p (cs.dropWhile p) := by
  intro c hc
  have hhead := List.head?_dropWhile_not p cs
  rw [Option.mem_def.1 hc] at hhead
  simpa using hhead

theorem StopsAt.takeWhile_eq_nil (h : StopsAt p cs) : cs.takeWhile p = [] := by
  cases cs with
  | nil => rfl
  | cons c cs => simp [stopsAt_cons.1 h]

theorem StopsAt.dropWhile_eq_self (h : StopsAt p cs) : cs.dropWhile p = cs := by
  cases cs with
  | nil => rfl
  | cons c cs => simp [stopsAt_cons.1 h]

/-- A text is cut behind the longest run of characters of a class. -/
theorem cut_eq_iff : cs.takeWhile p = word ∧ cs.dropWhile p = rest ↔
    cs = word ++ rest ∧ (∀ c ∈ word, p c = true) ∧ StopsAt p rest := by
  constructor
  · rintro ⟨rfl, rfl⟩
    exact ⟨List.takeWhile_append_dropWhile.symm, fun c hc => List.mem_takeWhile_imp hc,
      stopsAt_dropWhile p cs⟩
  · rintro ⟨rfl, hword, hrest⟩
    rw [List.takeWhile_append_of_pos hword, List.dropWhile_append_of_pos hword,
      hrest.takeWhile_eq_nil, hrest.dropWhile_eq_self, List.append_nil]
    exact ⟨rfl, rfl⟩

/-! ### The texts that tokens are made of -/

/-- A name: a letter or an underscore, then letters, digits, underscores and hyphens. -/
def IsName (cs : List Char) : Prop :=
  ∃ c rest, cs = c :: rest ∧ isNameStart c = true ∧ ∀ d ∈ rest, isNameChar d = true

/-- A name without hyphens. -/
def IsWord (cs : List Char) : Prop :=
  ∃ c rest, cs = c :: rest ∧ isNameStart c = true ∧ ∀ d ∈ rest, isWordChar d = true

/-- The name of a variable: `var`, a capital letter, and letters, digits and underscores. -/
def IsVarName (cs : List Char) : Prop :=
  ∃ c rest, cs = 'v' :: 'a' :: 'r' :: c :: rest ∧ Text.isUpperLetter c = true ∧
    ∀ d ∈ rest, isWordChar d = true

/-- Decimal digits, perhaps with a fraction. -/
inductive IsNumber : List Char → Prop
  | whole {digits : List Char} (hdigits : MadeOf Text.isDigit digits) : IsNumber digits
  | fraction {digits more : List Char} (hdigits : MadeOf Text.isDigit digits)
      (hmore : MadeOf Text.isDigit more) : IsNumber (digits ++ '.' :: more)

/-- What may stand between quotes: no quote, and no backslash but in front of another character. -/
inductive IsStringBody : List Char → Prop
  | nil : IsStringBody []
  | plain {c : Char} {body : List Char} (hquote : c ≠ '"') (hslash : c ≠ '\\')
      (hbody : IsStringBody body) : IsStringBody (c :: body)
  | escaped (c : Char) {body : List Char} (hbody : IsStringBody body) :
      IsStringBody ('\\' :: c :: body)

/-- Further segments of a reference, each a dot and a name without hyphens. -/
inductive IsSegments : List Char → Prop
  | nil : IsSegments []
  | cons {word more : List Char} (hword : IsWord word) (hmore : IsSegments more) :
      IsSegments ('.' :: (word ++ more))

/-- How a token is written. -/
inductive Written : Token → List Char → Prop
  | note (body : List Char) : Written (.note (String.ofList (Text.trim body))) ('#' :: body)
  | string {body : List Char} (hbody : IsStringBody body) :
      Written (.string (String.ofList body)) ('"' :: (body ++ ['"']))
  | number {digits : List Char} (hdigits : IsNumber digits) :
      Written (.number (String.ofList digits)) digits
  | component {name : List Char} (hname : IsWord name) :
      Written (.component (String.ofList name)) ('%' :: name)
  | varName {name : List Char} (hname : IsVarName name) :
      Written (.varName (String.ofList name)) name
  | reference {name more : List Char} (hname : IsWord name) (hmore : IsSegments more) :
      Written (.reference (String.ofList (name ++ more))) ('@' :: (name ++ more))
  | function {name : List Char} (hname : IsWord name) :
      Written (.function (String.ofList name)) ('$' :: (name ++ ['(', ')']))
  | extension {word : List Char} (hword : MadeOf isWordChar word) :
      Written (.extension (String.ofList word)) ('.' :: word)
  | slash : Written .slash ['/']
  | equals : Written .equals ['=']
  | dot : Written .dot ['.']
  | identifier {name : List Char} (hname : IsName name) (hplain : ¬ IsVarName name) :
      Written (.identifier (String.ofList name)) name

/-- A text would go on with a segment of a reference. -/
def StartsSegment (cs : List Char) : Prop :=
  ∃ c rest, cs = '.' :: c :: rest ∧ isNameStart c = true

/-- A text would go on with the fraction of a number. -/
def StartsFraction (cs : List Char) : Prop :=
  ∃ c rest, cs = '.' :: c :: rest ∧ Text.isDigit c = true

/-- What follows a token does not belong to it. -/
def EndsBefore : Token → List Char → Prop
  | .note _, rest => rest = []
  | .component _, rest | .extension _, rest | .dot, rest => StopsAt isWordChar rest
  | .varName _, rest | .identifier _, rest => StopsAt isNameChar rest
  | .reference _, rest => StopsAt isWordChar rest ∧ ¬ StartsSegment rest
  | .number digits, rest => StopsAt Text.isDigit rest ∧ ('.' ∉ digits.toList → ¬ StartsFraction rest)
  | _, _ => True

/-! ### One rule at a time -/

theorem scanWord_eq_some_iff : scanWord cs = some (word, rest) ↔
    cs = word ++ rest ∧ IsWord word ∧ StopsAt isWordChar rest := by
  cases cs with
  | nil =>
    simp only [scanWord, reduceCtorEq, false_iff, not_and]
    rintro hnil ⟨c, more, rfl, -⟩
    simp at hnil
  | cons c cs =>
    rw [scanWord]
    constructor
    · intro h
      split at h
      · rename_i hstart
        obtain ⟨rfl, rfl⟩ := Prod.mk.inj (Option.some.inj h)
        obtain ⟨hcut, hword, hrest⟩ := cut_eq_iff.1 ⟨rfl, rfl⟩
        exact ⟨congrArg (c :: ·) hcut, ⟨c, _, rfl, hstart, hword⟩, hrest⟩
      · simp at h
    · rintro ⟨hcut, ⟨d, more, rfl, hstart, hmore⟩, hrest⟩
      rw [List.cons_append] at hcut
      obtain ⟨rfl, rfl⟩ := List.cons.inj hcut
      obtain ⟨htake, hdrop⟩ := cut_eq_iff.2 ⟨rfl, hmore, hrest⟩
      rw [if_pos hstart, htake, hdrop]

theorem scanString_eq_some_iff : scanString cs = some (text, rest) ↔
    ∃ body, text = body ++ ['"'] ∧ IsStringBody body ∧ cs = body ++ '"' :: rest := by
  constructor
  · intro h
    fun_induction scanString cs generalizing text with
    | case1 => simp at h
    | case2 cs =>
      obtain ⟨rfl, rfl⟩ := Prod.mk.inj (Option.some.inj h)
      exact ⟨[], rfl, .nil, rfl⟩
    | case3 => simp at h
    | case4 c cs ih =>
      obtain ⟨⟨tail, rest'⟩, htail, h⟩ := Option.map_eq_some_iff.1 h
      obtain ⟨rfl, rfl⟩ := Prod.mk.inj h
      obtain ⟨body, rfl, hbody, rfl⟩ := ih htail
      exact ⟨'\\' :: c :: body, rfl, .escaped c hbody, rfl⟩
    | case5 c cs hquote hend hslash ih =>
      obtain ⟨⟨tail, rest'⟩, htail, h⟩ := Option.map_eq_some_iff.1 h
      obtain ⟨rfl, rfl⟩ := Prod.mk.inj h
      obtain ⟨body, rfl, hbody, rfl⟩ := ih htail
      refine ⟨c :: body, rfl, .plain (fun heq => hquote heq) (fun heq => ?_) hbody, rfl⟩
      -- a backslash has a character behind it, so an earlier rule would have applied
      cases body with
      | nil => exact hslash _ _ heq rfl
      | cons d body => exact hslash _ _ heq rfl
  · rintro ⟨body, rfl, hbody, rfl⟩
    induction hbody with
    | nil => rfl
    | @plain c body hquote hslash hbody ih =>
      rw [List.cons_append, scanString.eq_5 _ _ (fun heq => hquote heq)
        (fun heq _ => hslash heq) (fun _ _ heq _ => hslash heq), ih]
      rfl
    | escaped c hbody ih =>
      rw [List.cons_append, List.cons_append, scanString, ih]
      rfl

theorem scanNumber_eq_iff (hcs : cs.takeWhile Text.isDigit ≠ []) : scanNumber cs = (text, rest) ↔
    cs = text ++ rest ∧ IsNumber text ∧ StopsAt Text.isDigit rest ∧
      ('.' ∉ text → ¬ StartsFraction rest) := by
  have hwhole : IsNumber (cs.takeWhile Text.isDigit) :=
    .whole ⟨hcs, fun c hc => List.mem_takeWhile_imp hc⟩
  constructor
  · intro h
    unfold scanNumber at h
    split at h
    · rename_i d more hdrop
      have hcut := List.takeWhile_append_dropWhile (p := Text.isDigit) (l := cs)
      rw [hdrop] at hcut
      split at h
      · -- a dot and a digit behind it belong to the number
        rename_i hd
        obtain ⟨rfl, rfl⟩ := Prod.mk.inj h
        refine ⟨?_, ?_, stopsAt_dropWhile _ _, fun hdot => absurd ?_ hdot⟩
        · simpa using hcut.symm
        · exact .fraction ⟨hcs, fun c hc => List.mem_takeWhile_imp hc⟩ (madeOf_takeWhile hd)
        · simp
      · -- any other dot is left
        rename_i hd
        obtain ⟨rfl, rfl⟩ := Prod.mk.inj h
        refine ⟨hcut.symm, hwhole, stopsAt_cons.2 rfl, ?_⟩
        rintro - ⟨d', more', heq, hd'⟩
        obtain ⟨-, heq⟩ := List.cons.inj heq
        obtain ⟨rfl, -⟩ := List.cons.inj heq
        exact hd hd'
    · rename_i hdrop
      obtain ⟨rfl, rfl⟩ := Prod.mk.inj h
      refine ⟨List.takeWhile_append_dropWhile.symm, hwhole, stopsAt_dropWhile _ _, ?_⟩
      rintro - ⟨d, more, heq, -⟩
      exact hdrop d more heq
  · rintro ⟨rfl, hnumber, hrest, hfraction⟩
    cases hnumber with
    | whole hdigits =>
      obtain ⟨htake, hdrop⟩ := cut_eq_iff.2 ⟨rfl, hdigits.2, hrest⟩
      have hdot : '.' ∉ text := fun hmem => absurd (hdigits.2 _ hmem) (by decide)
      unfold scanNumber
      rw [htake, hdrop]
      split
      · rename_i d more
        rw [if_neg fun hd => hfraction hdot ⟨d, more, rfl, hd⟩]
      · rfl
    | @fraction digits more hdigits hmore =>
      obtain ⟨d, more, rfl⟩ := List.exists_cons_of_ne_nil hmore.1
      have hd := hmore.2 d List.mem_cons_self
      have hmore := fun e he => hmore.2 e (List.mem_cons_of_mem _ he)
      have hdot : StopsAt Text.isDigit ('.' :: d :: (more ++ rest)) := stopsAt_cons.2 rfl
      obtain ⟨htake, hdrop⟩ := cut_eq_iff.2 ⟨rfl, hdigits.2, hdot⟩
      obtain ⟨htake', hdrop'⟩ := cut_eq_iff.2 ⟨rfl, hmore, hrest⟩
      have hcs : digits ++ '.' :: d :: more ++ rest = digits ++ '.' :: d :: (more ++ rest) := by simp
      unfold scanNumber
      rw [hcs, htake, hdrop]
      simp only [hd, if_true, htake', hdrop']

theorem stopsAt_isWordChar_append (hmore : IsSegments more) (hrest : StopsAt isWordChar rest) :
    StopsAt isWordChar (more ++ rest) := by
  cases hmore with
  | nil => exact hrest
  | cons => exact stopsAt_cons.2 rfl

theorem scanSegments_eq_iff (hcs : StopsAt isWordChar cs) : scanSegments cs = (more, rest) ↔
    cs = more ++ rest ∧ IsSegments more ∧ StopsAt isWordChar rest ∧ ¬ StartsSegment rest := by
  constructor
  · intro h
    fun_induction scanSegments cs generalizing more with
    | case1 c cs hstart more' rest' heq ih =>
      obtain ⟨rfl, rfl⟩ := Prod.mk.inj h
      obtain ⟨hcut, hmore, hrest⟩ := ih (stopsAt_dropWhile _ _) heq
      have hword : IsWord (c :: cs.takeWhile isWordChar) :=
        ⟨c, _, rfl, hstart, fun d hd => List.mem_takeWhile_imp hd⟩
      refine ⟨?_, .cons hword hmore, hrest⟩
      have hall := List.takeWhile_append_dropWhile (p := isWordChar) (l := cs)
      rw [hcut] at hall
      simpa using hall.symm
    | case2 c cs hstart =>
      obtain ⟨rfl, rfl⟩ := Prod.mk.inj h
      refine ⟨rfl, .nil, hcs, ?_⟩
      rintro ⟨d, more, heq, hd⟩
      obtain ⟨-, heq⟩ := List.cons.inj heq
      obtain ⟨rfl, -⟩ := List.cons.inj heq
      exact hstart hd
    | case3 cs hdot =>
      obtain ⟨rfl, rfl⟩ := Prod.mk.inj h
      refine ⟨rfl, .nil, hcs, ?_⟩
      rintro ⟨d, more, heq, -⟩
      exact hdot d more heq
  · rintro ⟨rfl, hmore, hrest, hend⟩
    -- every segment takes its word, as no character of a word stands in front of the next one
    clear hcs
    induction hmore with
    | nil =>
      rw [List.nil_append]
      unfold scanSegments
      split
      · rename_i d more
        rw [if_neg fun hd => hend ⟨d, more, rfl, hd⟩]
      · rfl
    | @cons word more hword hmore ih =>
      obtain ⟨c, word, rfl, hstart, hword⟩ := hword
      obtain ⟨htake, hdrop⟩ := cut_eq_iff.2 ⟨rfl, hword, stopsAt_isWordChar_append hmore hrest⟩
      have hcs : '.' :: (c :: word ++ more) ++ rest = '.' :: c :: (word ++ (more ++ rest)) := by simp
      rw [hcs, scanSegments, if_pos hstart, htake, hdrop, ih]
      simp

/-! ### Names -/

theorem IsVarName.isName (h : IsVarName name) : IsName name := by
  obtain ⟨c, rest, rfl, hc, hrest⟩ := h
  refine ⟨'v', _, rfl, rfl, ?_⟩
  have hcapital : isNameChar c = true := by simp [isNameChar, isWordChar, Text.isLetter, hc]
  intro d hd
  rcases List.mem_cons.1 hd with rfl | hd
  · rfl
  rcases List.mem_cons.1 hd with rfl | hd
  · rfl
  rcases List.mem_cons.1 hd with rfl | hd
  · exact hcapital
  · exact isNameChar_of_isWordChar (hrest d hd)

theorem ofName_of_isVarName (h : IsVarName name) : ofName name = .varName (String.ofList name) := by
  obtain ⟨c, rest, rfl, hc, hrest⟩ := h
  have hall : rest.all isWordChar = true := by simpa using hrest
  simp [ofName, hc, hall]

theorem ofName_of_not_isVarName (h : ¬ IsVarName name) :
    ofName name = .identifier (String.ofList name) := by
  unfold ofName
  split
  · rename_i c cs
    rw [if_neg]
    intro hvar
    rw [Bool.and_eq_true, List.all_eq_true] at hvar
    exact h ⟨c, cs, rfl, hvar⟩
  · rfl

/-- No digit starts a name. -/
theorem isDigit_of_isNameStart (h : isNameStart c = true) : Text.isDigit c = false := by
  by_contra hdigit
  simp only [Text.isDigit, Bool.not_eq_false, Bool.and_eq_true, decide_eq_true_eq] at hdigit
  simp only [isNameStart, Text.isLetter, Text.isUpperLetter, Bool.or_eq_true, Bool.and_eq_true,
    decide_eq_true_eq, beq_iff_eq] at h
  rcases h with (⟨hsmall, -⟩ | ⟨hcapital, -⟩) | rfl
  · exact absurd (Char.le_trans hsmall hdigit.2) (by decide : ¬ 'a' ≤ '9')
  · exact absurd (Char.le_trans hcapital hdigit.2) (by decide : ¬ 'A' ≤ '9')
  · exact absurd hdigit.2 (by decide)

/-! ### Tokens that stand for a name -/

theorem name?_ofName (name : List Char) : (ofName name).name? = some (String.ofList name) := by
  by_cases hvar : IsVarName name
  · rw [ofName_of_isVarName hvar, name?]
  · rw [ofName_of_not_isVarName hvar, name?]

theorem written_ofName (h : IsName name) : (ofName name).Written name := by
  by_cases hvar : IsVarName name
  · rw [ofName_of_isVarName hvar]
    exact .varName hvar
  · rw [ofName_of_not_isVarName hvar]
    exact .identifier h hvar

theorem endsBefore_ofName_iff : (ofName name).EndsBefore rest ↔ StopsAt isNameChar rest := by
  by_cases hvar : IsVarName name
  · rw [ofName_of_isVarName hvar]
    exact Iff.rfl
  · rw [ofName_of_not_isVarName hvar]
    exact Iff.rfl

/-- What stands for a name is written as one, and no character of a name follows it. -/
theorem Written.of_name? {given : String} (h : token.Written text) (hends : token.EndsBefore rest)
    (hname : token.name? = some given) :
    IsName text ∧ given = String.ofList text ∧ StopsAt isNameChar rest := by
  cases h with
  | varName hvar => exact ⟨hvar.isName, (Option.some.inj hname).symm, hends⟩
  | identifier hplain => exact ⟨hplain, (Option.some.inj hname).symm, hends⟩
  | _ => simp [name?] at hname

/-! ### The first token -/

/-- The characters with which a token starts that is neither a number nor a name. -/
def openers : List Char :=
  ['#', '"', '%', '@', '$', '.', '/', '=']

theorem scan_of_notMem_openers (h : c ∉ openers) : scan (c :: cs) =
    if Text.isDigit c then
      some (.number (String.ofList (scanNumber (c :: cs)).1), scanNumber (c :: cs))
    else if isNameStart c then
      some (ofName (c :: cs.takeWhile isNameChar), c :: cs.takeWhile isNameChar,
        cs.dropWhile isNameChar)
    else none := by
  unfold scan
  split
  case h_1 heq => simp at heq
  case h_10 heq =>
    obtain ⟨rfl, rfl⟩ := List.cons.inj heq
    rfl
  all_goals
    rename_i heq
    obtain ⟨rfl, -⟩ := List.cons.inj heq
    exact absurd h (by decide)

theorem scan_of_isDigit (h : Text.isDigit c = true) : scan (c :: cs) =
    some (.number (String.ofList (scanNumber (c :: cs)).1), scanNumber (c :: cs)) := by
  have hopeners : ∀ d ∈ openers, Text.isDigit d = false := by simp [openers, Text.isDigit]
  rw [scan_of_notMem_openers fun hmem => by simp [hopeners c hmem] at h, if_pos h]

theorem scan_of_isNameStart (h : isNameStart c = true) : scan (c :: cs) =
    some (ofName (c :: cs.takeWhile isNameChar), c :: cs.takeWhile isNameChar,
      cs.dropWhile isNameChar) := by
  have hopeners : ∀ d ∈ openers, isNameStart d = false := by
    simp [openers, isNameStart, Text.isLetter, Text.isUpperLetter]
  rw [scan_of_notMem_openers fun hmem => by simp [hopeners c hmem] at h, if_neg, if_pos h]
  simp [isDigit_of_isNameStart h]

/-- No token starts with a gap. -/
theorem scan_of_isGap (h : isGap c = true) : scan (c :: cs) = none := by
  simp only [isGap, Bool.or_eq_true, beq_iff_eq, or_assoc] at h
  rcases h with rfl | rfl | rfl <;> rfl

/-- A name is read to its end. -/
theorem scan_name (hname : IsName name) (hrest : StopsAt isNameChar rest) :
    scan (name ++ rest) = some (ofName name, name, rest) := by
  obtain ⟨c, cs, rfl, hstart, hcs⟩ := hname
  obtain ⟨htake, hdrop⟩ := cut_eq_iff.2 ⟨rfl, hcs, hrest⟩
  rw [List.cons_append, scan_of_isNameStart hstart, htake, hdrop]

theorem IsNumber.exists_cons (h : IsNumber digits) :
    ∃ c cs, digits = c :: cs ∧ Text.isDigit c = true := by
  cases h with
  | whole hdigits =>
    obtain ⟨c, cs, rfl⟩ := List.exists_cons_of_ne_nil hdigits.1
    exact ⟨c, cs, rfl, hdigits.2 c List.mem_cons_self⟩
  | fraction hdigits =>
    obtain ⟨c, cs, rfl⟩ := List.exists_cons_of_ne_nil hdigits.1
    exact ⟨c, _, rfl, hdigits.2 c List.mem_cons_self⟩

/-- A number is read to its end. -/
theorem scan_number (hdigits : IsNumber digits) (hrest : StopsAt Text.isDigit rest)
    (hfraction : '.' ∉ digits → ¬ StartsFraction rest) :
    scan (digits ++ rest) = some (.number (String.ofList digits), digits, rest) := by
  obtain ⟨c, cs, rfl, hc⟩ := hdigits.exists_cons
  have hne : (c :: cs ++ rest).takeWhile Text.isDigit ≠ [] := by simp [hc]
  have hscan := (scanNumber_eq_iff hne).2 ⟨rfl, hdigits, hrest, hfraction⟩
  rw [List.cons_append] at hscan ⊢
  rw [scan_of_isDigit hc, hscan]

/-- A token that is written out is the first one if what follows does not belong to it. -/
theorem Written.scan_append (h : token.Written text) (hends : token.EndsBefore rest) :
    scan (text ++ rest) = some (token, text, rest) := by
  cases h with
  | note body =>
    obtain rfl : rest = [] := hends
    simp [scan]
  | @string body hbody =>
    have hscan : scanString (body ++ '"' :: rest) = some (body ++ ['"'], rest) :=
      scanString_eq_some_iff.2 ⟨body, rfl, hbody, rfl⟩
    simp [scan, hscan]
  | number hdigits => exact scan_number hdigits hends.1 (by simpa using hends.2)
  | component hname =>
    have hscan := scanWord_eq_some_iff.2 ⟨rfl, hname, hends⟩
    simp [scan, hscan]
  | varName hname => rw [scan_name hname.isName hends, ofName_of_isVarName hname]
  | @reference name more hname hmore =>
    have hstop := stopsAt_isWordChar_append hmore hends.1
    have hword := scanWord_eq_some_iff.2 ⟨rfl, hname, hstop⟩
    have hsegments := (scanSegments_eq_iff hstop).2 ⟨rfl, hmore, hends⟩
    simp [scan, hword, hsegments]
  | @function name hname =>
    have hscan : scanWord (name ++ '(' :: ')' :: rest) = some (name, '(' :: ')' :: rest) :=
      scanWord_eq_some_iff.2 ⟨rfl, hname, stopsAt_cons.2 rfl⟩
    simp [scan, hscan]
  | @extension word hword =>
    obtain ⟨htake, hdrop⟩ := cut_eq_iff.2 ⟨rfl, hword.2, hends⟩
    obtain ⟨c, cs, rfl⟩ := List.exists_cons_of_ne_nil hword.1
    rw [List.cons_append, scan, htake, hdrop]
  | slash => rfl
  | equals => rfl
  | dot =>
    have htake : rest.takeWhile isWordChar = [] := hends.takeWhile_eq_nil
    rw [List.cons_append, List.nil_append, scan, htake]
  | identifier hname hplain => rw [scan_name hname hends, ofName_of_not_isVarName hplain]

/-- The first token of a text is written at its front, and what follows does not belong to it. -/
theorem written_of_scan (h : scan cs = some (token, text, rest)) :
    token.Written text ∧ token.EndsBefore rest := by
  unfold scan at h
  split at h
  case h_1 => simp at h
  case h_2 body =>
    simp only [Option.some.injEq, Prod.mk.injEq] at h
    obtain ⟨rfl, rfl, rfl⟩ := h
    exact ⟨.note body, rfl⟩
  case h_3 =>
    obtain ⟨⟨read, rest'⟩, hread, h⟩ := Option.map_eq_some_iff.1 h
    simp only [Prod.mk.injEq] at h
    obtain ⟨rfl, rfl, rfl⟩ := h
    obtain ⟨body, rfl, hbody, -⟩ := scanString_eq_some_iff.1 hread
    rw [List.dropLast_concat]
    exact ⟨.string hbody, trivial⟩
  case h_4 =>
    obtain ⟨⟨name, rest'⟩, hname, h⟩ := Option.map_eq_some_iff.1 h
    simp only [Prod.mk.injEq] at h
    obtain ⟨rfl, rfl, rfl⟩ := h
    obtain ⟨-, hname, hends⟩ := scanWord_eq_some_iff.1 hname
    exact ⟨.component hname, hends⟩
  case h_5 =>
    obtain ⟨⟨name, rest'⟩, hname, h⟩ := Option.map_eq_some_iff.1 h
    simp only [Prod.mk.injEq] at h
    obtain ⟨rfl, rfl, rfl⟩ := h
    obtain ⟨-, hname, hstop⟩ := scanWord_eq_some_iff.1 hname
    obtain ⟨-, hmore, hends⟩ := (scanSegments_eq_iff hstop).1 rfl
    exact ⟨.reference hname hmore, hends⟩
  case h_6 =>
    split at h
    · rename_i name rest' hname
      simp only [Option.some.injEq, Prod.mk.injEq] at h
      obtain ⟨rfl, rfl, rfl⟩ := h
      obtain ⟨-, hname, -⟩ := scanWord_eq_some_iff.1 hname
      exact ⟨.function hname, trivial⟩
    · simp at h
  case h_7 cs =>
    split at h
    · rename_i htake
      simp only [Option.some.injEq, Prod.mk.injEq] at h
      obtain ⟨rfl, rfl, rfl⟩ := h
      have hdrop := stopsAt_dropWhile isWordChar cs
      have hcut := List.takeWhile_append_dropWhile (p := isWordChar) (l := cs)
      rw [htake, List.nil_append] at hcut
      rw [hcut] at hdrop
      exact ⟨.dot, hdrop⟩
    · rename_i hne
      simp only [Option.some.injEq, Prod.mk.injEq] at h
      obtain ⟨rfl, rfl, rfl⟩ := h
      exact ⟨.extension ⟨hne, fun c hc => List.mem_takeWhile_imp hc⟩, stopsAt_dropWhile _ _⟩
  case h_8 =>
    simp only [Option.some.injEq, Prod.mk.injEq] at h
    obtain ⟨rfl, rfl, rfl⟩ := h
    exact ⟨.slash, trivial⟩
  case h_9 =>
    simp only [Option.some.injEq, Prod.mk.injEq] at h
    obtain ⟨rfl, rfl, rfl⟩ := h
    exact ⟨.equals, trivial⟩
  case h_10 c cs _ _ _ _ _ _ _ _ =>
    -- the first character decides between a number and a name
    split at h
    · rename_i hdigit
      rcases hscan : scanNumber (c :: cs) with ⟨digits, rest'⟩
      simp only [hscan, Option.some.injEq, Prod.mk.injEq] at h
      obtain ⟨rfl, rfl, rfl⟩ := h
      have hne : (c :: cs).takeWhile Text.isDigit ≠ [] := by simp [hdigit]
      obtain ⟨-, hnumber, hends⟩ := (scanNumber_eq_iff hne).1 hscan
      exact ⟨.number hnumber, by simpa [EndsBefore] using hends⟩
    · split at h
      · rename_i hstart
        simp only [Option.some.injEq, Prod.mk.injEq] at h
        obtain ⟨rfl, rfl, rfl⟩ := h
        have hname : IsName (c :: cs.takeWhile isNameChar) :=
          ⟨c, _, rfl, hstart, fun d hd => List.mem_takeWhile_imp hd⟩
        have hends := stopsAt_dropWhile isNameChar cs
        exact ⟨written_ofName hname, endsBefore_ofName_iff.2 hends⟩
      · simp at h

/-- **The first token of a text** is one that is written at its front and goes on as long as it
can. -/
theorem scan_eq_some_iff : scan cs = some (token, text, rest) ↔
    cs = text ++ rest ∧ token.Written text ∧ token.EndsBefore rest := by
  constructor
  · intro h
    exact ⟨(scan_append h).1.symm, written_of_scan h⟩
  · rintro ⟨rfl, hwritten, hends⟩
    exact hwritten.scan_append hends

/-! ### Tokens as they are shown -/

/-- A token shows as it is written, unless it is a note. -/
theorem Written.text_eq (h : token.Written text) (hnote : ∀ body, token ≠ .note body) :
    token.text = String.ofList text := by
  cases h with
  | note body => exact absurd rfl (hnote _)
  | _ => simp [Token.text, String.ext_iff]

/-- Any token may stand at the end of a text. -/
theorem endsBefore_nil (token : Token) : token.EndsBefore [] := by
  cases token with
  | note => rfl
  | reference => exact ⟨stopsAt_nil _, by simp [StartsSegment]⟩
  | number => exact ⟨stopsAt_nil _, by simp [StartsFraction]⟩
  | component | extension | dot | varName | identifier => exact stopsAt_nil _
  | _ => trivial

end CodeOutline.Token
