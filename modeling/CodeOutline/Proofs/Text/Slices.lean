import CodeOutline.Text.Basic

/-!
# Parts of a text by their bytes

Places in a text are counted in bytes, so a place need not be one where a character starts: a text
can be cut there only if it is. A part of a text is given by the places at its two ends.

## Main definitions

* `Text.cutAt?`: a text in front of a byte, and from it on
* `Text.slice?`: the part of a text between two bytes

## Main results

* `Text.slice?_eq_some_iff`: a part has as many bytes as lie between its ends, and in front of it are
  as many as its start says
-/

namespace CodeOutline.Text

variable {cs front rest before part : List Char} {room start stop : Nat}

/-! ### Sizes -/

@[simp] theorem byteLength_nil : byteLength [] = 0 :=
  rfl

theorem byteLength_cons (c : Char) (cs : List Char) :
    byteLength (c :: cs) = c.utf8Size + byteLength cs :=
  rfl

@[simp] theorem byteLength_append (front rest : List Char) :
    byteLength (front ++ rest) = byteLength front + byteLength rest := by
  induction front with
  | nil => simp
  | cons c front ih => rw [List.cons_append, byteLength_cons, byteLength_cons, ih, Nat.add_assoc]

theorem byteLength_eq_zero_iff : byteLength cs = 0 ↔ cs = [] := by
  cases cs with
  | nil => exact iff_of_true rfl rfl
  | cons c cs =>
    have hpos := c.utf8Size_pos
    simp only [byteLength_cons, reduceCtorEq, iff_false]
    omega

/-- The size of a text is that of its string. -/
theorem byteLength_eq_utf8ByteSize (cs : List Char) :
    byteLength cs = (String.ofList cs).utf8ByteSize := by
  induction cs with
  | nil => rfl
  | cons c cs ih =>
    rw [byteLength_cons, ih, String.ofList_cons, String.utf8ByteSize_append,
      String.utf8ByteSize_singleton]

/-! ### Cuts -/

/-- The text in front of a byte, and the text from it on, if a character starts there or the text
ends. -/
def cutAt? : Nat → List Char → Option (List Char × List Char)
  | 0, cs => some ([], cs)
  | _ + 1, [] => none
  | room + 1, c :: cs =>
    if c.utf8Size ≤ room + 1 then
      (cutAt? (room + 1 - c.utf8Size) cs).map fun (front, rest) => (c :: front, rest)
    else none

/-- The part of a text from byte `start` up to, but not including, byte `stop`, if the text can be cut
at both. -/
def slice? (start stop : Nat) (cs : List Char) : Option (List Char) :=
  (cutAt? stop cs).bind fun (front, _) => (cutAt? start front).map fun (_, part) => part

theorem cutAt?_append (front rest : List Char) :
    cutAt? (byteLength front) (front ++ rest) = some (front, rest) := by
  induction front with
  | nil => simp [cutAt?]
  | cons c front ih =>
    have hpos := c.utf8Size_pos
    obtain ⟨room, hroom⟩ : ∃ room, c.utf8Size + byteLength front = room + 1 :=
      ⟨_, (Nat.succ_pred_eq_of_pos (by omega)).symm⟩
    -- the first character fits, and leaves room for the others
    have hrest : room + 1 - c.utf8Size = byteLength front := by omega
    have hfits : c.utf8Size ≤ room + 1 := by omega
    rw [byteLength_cons, hroom, List.cons_append, cutAt?, if_pos hfits, hrest, ih]
    rfl

theorem of_cutAt?_eq_some (h : cutAt? room cs = some (front, rest)) :
    cs = front ++ rest ∧ byteLength front = room := by
  fun_induction cutAt? room cs generalizing front with
  | case1 cs =>
    obtain ⟨rfl, rfl⟩ := Prod.mk.inj (Option.some.inj h)
    exact ⟨rfl, rfl⟩
  | case2 => simp at h
  | case3 room c cs hfits ih =>
    obtain ⟨⟨front', rest'⟩, hcut, h⟩ := Option.map_eq_some_iff.1 h
    obtain ⟨rfl, rfl⟩ := Prod.mk.inj h
    obtain ⟨rfl, hlength⟩ := ih hcut
    refine ⟨rfl, ?_⟩
    rw [byteLength_cons, hlength]
    omega
  | case4 => simp at h

theorem cutAt?_eq_some_iff :
    cutAt? room cs = some (front, rest) ↔ cs = front ++ rest ∧ byteLength front = room := by
  constructor
  · exact of_cutAt?_eq_some
  · rintro ⟨rfl, rfl⟩
    exact cutAt?_append front rest

/-- **The part of a text between two bytes** has as many bytes as lie between its ends, and in front
of it are as many as its start says. -/
theorem slice?_eq_some_iff : slice? start stop cs = some part ↔
    ∃ before after, cs = before ++ (part ++ after) ∧ byteLength before = start ∧
      byteLength before + byteLength part = stop := by
  simp only [slice?, Option.bind_eq_some_iff, Option.map_eq_some_iff, Prod.exists,
    cutAt?_eq_some_iff]
  constructor
  · rintro ⟨front, after, ⟨rfl, rfl⟩, before, part, ⟨rfl, rfl⟩, rfl⟩
    exact ⟨before, after, by simp, rfl, by simp⟩
  · rintro ⟨before, after, rfl, rfl, rfl⟩
    exact ⟨before ++ part, after, by simp, before, part, by simp⟩

/-- No part starts inside a character. -/
example : slice? 1 2 ['é'] = none := by decide

theorem slice?_append (before part after : List Char) :
    slice? (byteLength before) (byteLength before + byteLength part) (before ++ (part ++ after)) =
      some part :=
  slice?_eq_some_iff.2 ⟨before, after, rfl, rfl, rfl⟩

end CodeOutline.Text
