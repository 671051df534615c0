import LiveScene.Ron.Quoted
import LiveScene.Toml.Quoted
import Mathlib.Data.List.Basic
import Mathlib.Data.List.TakeDrop

/-! # Numbers and strings read back

What is written for a number or a string is read as that number or string, whatever text follows.
Digits are read one by one, so their value is built up the way the number was taken apart; the
characters of a string are written one by one, so it is enough to read each of them back.
-/

namespace LiveScene

namespace Text

/-- What is accepted at the front of a text is split off where it ends. -/
theorem span_append {p : Char → Bool} {cs rest : List Char} (hcs : ∀ c ∈ cs, p c = true)
    (hrest : ∀ c ∈ rest.head?, p c = false) : (cs ++ rest).span p = (cs, rest) := by
  have hstop : rest.takeWhile p = [] ∧ rest.dropWhile p = rest := by
    cases rest with
    | nil => exact ⟨rfl, rfl⟩
    | cons c rest =>
        have hc : p c = false := hrest c rfl
        simp [hc]
  rw [List.span_eq_takeWhile_dropWhile, List.takeWhile_append_of_pos hcs,
    List.dropWhile_append_of_pos hcs, hstop.1, hstop.2, List.append_nil]

/-- A text that gets something for each item is at least as long as there are items. -/
theorem length_le_length_flatMap {α : Type} {write : α → List Char} (hwrite : ∀ a, write a ≠ [])
    (items : List α) : items.length ≤ (items.flatMap write).length := by
  induction items with
  | nil => simp
  | cons item items ih =>
      have hitem := List.length_pos_of_ne_nil (hwrite item)
      rw [List.flatMap_cons, List.length_append, List.length_cons]
      omega

/-! ## Digits -/

theorem hexValue?_digitChar {digit : Nat} (hdigit : digit < 16) :
    hexValue? digit.digitChar = some digit := by
  revert digit
  decide

/-- One more digit. -/
theorem valueIn?_concat {base n digit : Nat} {digits : List Char} (hbase : base ≤ 16)
    (hdigits : valueIn? base digits = some n) (hdigit : digit < base) :
    valueIn? base (digits ++ [digit.digitChar]) = some (n * base + digit) := by
  unfold valueIn? at hdigits ⊢
  rw [List.foldlM_append, hdigits]
  simp [hexValue?_digitChar (Nat.lt_of_lt_of_le hdigit hbase), hdigit]

theorem valueIn?_hexDigits {width n : Nat} (hn : n < Nat.pow 16 width) :
    valueIn? 16 (hexDigits width n) = some n := by
  induction width generalizing n with
  | zero =>
      have hzero : n = 0 := Nat.lt_one_iff.mp hn
      rw [hzero]
      rfl
  | succ width ih =>
      have hrest : n / 16 < Nat.pow 16 width :=
        Nat.div_lt_of_lt_mul (by rw [Nat.mul_comm]; exact hn)
      rw [hexDigits, valueIn?_concat (Nat.le_refl 16) (ih hrest) (Nat.mod_lt n (by decide)),
        Nat.div_add_mod']

theorem valueIn?_toDigits (n : Nat) : valueIn? 10 (Nat.toDigits 10 n) = some n := by
  induction n using Nat.strongRecOn with
  | ind n ih =>
      rw [Nat.toDigits_eq_if (by decide)]
      split
      next hlt =>
        have hempty : valueIn? 10 [] = some 0 := rfl
        simpa using valueIn?_concat (by decide) hempty hlt
      next hge =>
        rw [valueIn?_concat (by decide) (ih (n / 10) (by omega)) (Nat.mod_lt n (by decide)),
          Nat.div_add_mod']

theorem toNat_digitChar_sub {digit : Nat} (hdigit : digit < 10) :
    digit.digitChar.toNat - 48 = digit := by
  revert digit
  decide

theorem isDigit_of_mem_toDigits {n : Nat} {c : Char} (hc : c ∈ Nat.toDigits 10 n) :
    c.isDigit = true :=
  Nat.isDigit_of_mem_toDigits (by decide) (by decide) hc

theorem digitsValue_toDigits (n : Nat) : digitsValue (Nat.toDigits 10 n) = n := by
  induction n using Nat.strongRecOn with
  | ind n ih =>
      rw [Nat.toDigits_eq_if (by decide)]
      split
      next hlt => simp [digitsValue, toNat_digitChar_sub hlt]
      next hge =>
        have hrest := ih (n / 10) (by omega)
        unfold digitsValue at hrest ⊢
        rw [List.foldl_append, hrest]
        simp only [List.foldl_cons, List.foldl_nil,
          toNat_digitChar_sub (Nat.mod_lt n (by decide : 0 < 10))]
        omega

/-- A number that is not zero has no needless zero in front. -/
theorem head?_toDigits_ne {n : Nat} (hn : 0 < n) : (Nat.toDigits 10 n).head? ≠ some '0' := by
  induction n using Nat.strongRecOn with
  | ind n ih =>
      rw [Nat.toDigits_eq_if (by decide)]
      split
      next hlt =>
        have hdigit : ∀ digit < 10, 0 < digit → [Nat.digitChar digit].head? ≠ some '0' := by decide
        exact hdigit n hlt hn
      next hge =>
        rw [List.head?_append_of_ne_nil _ Nat.toDigits_ne_nil]
        exact ih (n / 10) (by omega) (by omega)

/-! ## Codes of characters -/

theorem scalar?_toNat (c : Char) : scalar? c.toNat = some c := by
  have hvalid : c.toNat < 0xD800 ∨ 0xDFFF < c.toNat ∧ c.toNat < 0x110000 := c.valid
  rw [scalar?, if_pos hvalid, Char.ofNat_toNat]

theorem hexScalar?_hexDigits {c : Char} {width : Nat} (hc : c.toNat < Nat.pow 16 width) :
    hexScalar? (hexDigits width c.toNat) = some c := by
  rw [hexScalar?, valueIn?_hexDigits hc, Option.bind_some, scalar?_toNat]

theorem length_hexDigits (width n : Nat) : (hexDigits width n).length = width := by
  induction width generalizing n with
  | zero => rfl
  | succ width ih => simp [hexDigits, ih]

theorem mem_hexDigits {width n : Nat} {c : Char} (hc : c ∈ hexDigits width n) :
    ∃ digit < 16, c = Nat.digitChar digit := by
  induction width generalizing n with
  | zero => cases hc
  | succ width ih =>
      rcases List.mem_append.mp hc with hinit | hlast
      · exact ih hinit
      · exact ⟨n % 16, Nat.mod_lt n (by decide), List.mem_singleton.mp hlast⟩

theorem toNat_lt_pow_hexWidth (c : Char) : c.toNat < Nat.pow 16 (hexWidth c.toNat) := by
  have hvalid : c.toNat < 0xD800 ∨ 0xDFFF < c.toNat ∧ c.toNat < 0x110000 := c.valid
  unfold hexWidth
  split_ifs with h₁ h₂ h₃ h₄ h₅
  · exact h₁
  · exact h₂
  · exact h₃
  · exact h₄
  · exact h₅
  · exact Nat.lt_trans (by omega : c.toNat < 0x110000) (by decide)

end Text

/-! ## Strings -/

open Text

namespace Toml

/-- A character is read back by itself, by its escape or by its code. -/
theorem basicTail?_writeChar (c : Char) (text : List Char) :
    basicTail? (writeChar c ++ text) = push (some c) (basicTail? text) := by
  unfold writeChar
  split
  next hquoted =>
    rcases hquoted with rfl | rfl <;> rfl
  next hquoted =>
    rw [not_or] at hquoted
    split
    next hcontrol =>
      have hc : c.toNat < Nat.pow 16 4 := by
        simp only [isControl, Bool.or_eq_true, decide_eq_true_eq, beq_iff_eq] at hcontrol
        exact Nat.lt_of_le_of_lt (by omega : c.toNat ≤ 0x7F) (by decide)
      have hscalar := hexScalar?_hexDigits hc
      simp only [hexDigits, List.nil_append, List.cons_append] at hscalar
      simp [basicTail?, hexDigits, hscalar]
    next hcontrol =>
      have hplain : isPlain c = true := by simp [isPlain, hcontrol]
      rw [List.singleton_append, basicTail?.eq_def]
      simp [hquoted, hplain]

theorem basicTail?_written (cs rest : List Char) :
    basicTail? (cs.flatMap writeChar ++ '"' :: rest) = some (cs, rest) := by
  induction cs with
  | nil =>
      rw [List.flatMap_nil, List.nil_append, basicTail?.eq_def]
      rfl
  | cons c cs ih =>
      rw [List.flatMap_cons, List.append_assoc, basicTail?_writeChar, ih]
      rfl

theorem toList_quote (s : String) :
    (quote s).toList = '"' :: (s.toList.flatMap writeChar ++ ['"']) := by
  simp [quote]

end Toml

namespace Ron

/-- A letter that is written for a character stands for it. -/
theorem escape?_shortName? {c letter : Char} (hletter : shortName? c = some letter)
    (text : List Char) : escape? (letter :: text) = some (c, text) := by
  unfold shortName? at hletter
  split at hletter <;> cases hletter <;> rfl

theorem bracedDigits?_append {digits : List Char} (hclose : '}' ∉ digits) {count : Nat}
    (hcount : digits.length ≤ count) (text : List Char) :
    bracedDigits? count (digits ++ '}' :: text) = some (digits, text) := by
  induction digits generalizing count with
  | nil => cases count <;> rfl
  | cons digit digits ih =>
      simp only [List.mem_cons, not_or] at hclose
      cases count with
      | zero => simp at hcount
      | succ count =>
          have hdigit : digit ≠ '}' := Ne.symm hclose.1
          rw [List.cons_append, bracedDigits?, ih hclose.2 (Nat.le_of_succ_le_succ hcount)]
          · rfl
          · exact fun heq => hdigit heq

theorem escape?_hexDigits (c : Char) (text : List Char) :
    escape? ('u' :: '{' :: (hexDigits (hexWidth c.toNat) c.toNat ++ '}' :: text)) =
      some (c, text) := by
  have hclose : '}' ∉ hexDigits (hexWidth c.toNat) c.toNat := by
    intro hmem
    obtain ⟨digit, hdigit, heq⟩ := mem_hexDigits hmem
    revert digit
    decide
  have hwidth : (hexDigits (hexWidth c.toNat) c.toNat).length ≤ 6 := by
    rw [length_hexDigits, hexWidth]
    split_ifs <;> decide
  have hscalar := hexScalar?_hexDigits (toNat_lt_pow_hexWidth c)
  -- Braces with nothing between them are refused, but there is at least one digit.
  cases hdigits : hexDigits (hexWidth c.toNat) c.toNat with
  | nil =>
      have hlength := length_hexDigits (hexWidth c.toNat) c.toNat
      rw [hdigits, hexWidth] at hlength
      split_ifs at hlength
  | cons digit digits =>
      rw [hdigits] at hclose hwidth hscalar
      rw [escape?, bracedDigits?_append hclose hwidth]
      simp only [hscalar, Option.map_some]

/-- A character is read back by itself, by its escape or by its code. -/
theorem stringTail?_writeChar (fuel : Nat) (c : Char) (text : List Char) :
    stringTail? (fuel + 1) (writeChar c ++ text) = push (some c) (stringTail? fuel text) := by
  unfold writeChar
  cases hname : shortName? c with
  | some letter => simp [stringTail?, escape?_shortName? hname]
  | none =>
      have hquoted : c ≠ '"' ∧ c ≠ '\\' := by
        constructor <;> rintro rfl <;> cases hname
      dsimp only
      split
      next =>
        simp only [List.cons_append, List.append_assoc, List.nil_append, stringTail?,
          escape?_hexDigits]
        rfl
      next => simp [stringTail?, hquoted]

theorem stringTail?_written {fuel : Nat} {cs : List Char} (hfuel : cs.length < fuel)
    (rest : List Char) :
    stringTail? fuel (cs.flatMap writeChar ++ '"' :: rest) = some (cs, rest) := by
  induction cs generalizing fuel with
  | nil =>
      cases fuel with
      | zero => cases hfuel
      | succ fuel => rfl
  | cons c cs ih =>
      cases fuel with
      | zero => cases hfuel
      | succ fuel =>
          rw [List.flatMap_cons, List.append_assoc, stringTail?_writeChar,
            ih (Nat.lt_of_succ_lt_succ hfuel)]
          rfl

theorem writeChar_ne_nil (c : Char) : writeChar c ≠ [] := by
  unfold writeChar
  split
  · simp
  · split <;> simp

theorem toList_quote (s : String) :
    (quote s).toList = '"' :: (s.toList.flatMap writeChar ++ ['"']) := by
  simp [quote]

/-- A string is read back, whatever follows it. -/
theorem string?_quote (s : String) (rest : List Char) :
    string? ((quote s).toList ++ rest) = some (s, rest) := by
  have hlength := length_le_length_flatMap writeChar_ne_nil s.toList
  rw [toList_quote, List.cons_append, List.append_assoc, string?, List.singleton_append,
    stringTail?_written]
  · simp
  · simp only [List.length_append, List.length_cons]
    omega

end Ron

end LiveScene
