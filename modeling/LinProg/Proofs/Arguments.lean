import LinProg.Proofs.Loading
import LinProg.Proofs.Readable
import LinProg.Proofs.Spelling

set_option autoImplicit false

namespace LinProg

namespace Decimal

theorem digit_range {c : Char} (digit : c.isDigit = true) : 0x30 ≤ c.toNat ∧ c.toNat ≤ 0x39 :=
  Char.isDigit_iff_toNat.mp digit

theorem digit_plain {c : Char} (digit : c.isDigit = true) :
    Text.isSpacing c = false ∧ c ≠ '_' ∧ c ≠ '-' ∧ c ≠ '+' := by
  obtain ⟨least, most⟩ := digit_range digit
  have apart (other : Char) (outside : other.toNat < 0x30 ∨ 0x39 < other.toNat) : c ≠ other := by
    rintro rfl
    omega
  have space := apart ' ' (by decide)
  refine ⟨?_, apart '_' (by decide), apart '-' (by decide), apart '+' (by decide)⟩
  simp only [Text.isSpacing, space, false_or, decide_eq_false_iff_not]
  omega

variable {digits : List Char}

theorem plain_digits (all : ∀ c ∈ digits, c.isDigit = true) : plain? digits = some digits := by
  refine if_pos (List.all_eq_true.mpr fun c member => decide_eq_true ?_)
  have bounds := digit_range (all c member)
  omega

theorem trim_digits (all : ∀ c ∈ digits, c.isDigit = true) : Text.trim Text.isSpacing digits = digits := by
  have bare := @Text.trim_padded Char Text.isSpacing [] digits [] (by simp)
    (fun c member => (digit_plain (all c member)).1) (by simp)
  simpa using bare

theorem without_underscores (none : '_' ∉ digits) : withoutUnderscores? digits = some digits := by
  fun_induction withoutUnderscores? digits with
  | case1 => rfl
  | case2 => simp at none
  | case3 => rfl
  | case4 => simp at none
  | case5 => simp at none
  | case6 c rest _ _ _ ih =>
      rw [ih fun member => none (List.mem_cons_of_mem c member)]
      rfl

theorem take_sign_digits (all : ∀ c ∈ digits, c.isDigit = true) : takeSign digits = (false, digits) := by
  cases digits with
  | nil => rfl
  | cons c rest => exact take_sign_digit (all c List.mem_cons_self) rest

theorem read_digits (all : ∀ c ∈ digits, c.isDigit = true) (present : digits ≠ [])
    (short : digits.length ≤ wholeDigitLimit) :
    readInt? (digits.map .char) = some (ofDigits digits : Int) := by
  have underscores : '_' ∉ digits := fun member => (digit_plain (all '_' member)).2.1 rfl
  have chars : Text.chars? (digits.map .char) = some digits := (Text.chars_some_iff _ _).mpr rfl
  unfold readInt?
  simp only [chars, plain_digits all, trim_digits all, without_underscores underscores, take_sign_digits all,
    Option.bind_eq_bind, Option.bind_some]
  refine if_neg ?_
  simpa [present, Nat.not_lt.mpr short] using all

theorem read_number {n : Nat} (small : n ≤ 1000) : readInt? (Text.ofString (toString n)) = some (n : Int) := by
  rw [Nat.toString_eq_ofList_toDigits, Text.ofString, String.toList_ofList]
  have length : (Nat.toDigits 10 n).length ≤ 4 :=
    (Nat.length_toDigits_le_iff (by decide) (by decide)).mpr (by omega)
  rw [read_digits (digital_written n) Nat.toDigits_ne_nil (by unfold wholeDigitLimit; omega), of_digits_written]

end Decimal

namespace CommandLine

theorem flag_dashed {text : Text} {flag : Flag} (known : Flag.ofText? text = some flag) :
    text.head? = some (.char '-') := by
  obtain ⟨spelling, written, listed⟩ := Option.bind_eq_some_iff.mp known
  rw [Text.to_string_some_iff] at written
  subst written
  obtain ⟨before, after, split, _⟩ := List.lookup_eq_some_iff.mp listed
  have dashed : ∀ entry ∈ Flag.spellings, (Text.ofString entry.1).head? = some (.char '-') := by decide
  exact dashed (spelling, flag) (by simp [split])

def Bare (text : Text) : Prop := text.head? ≠ some (.char '-')

instance (text : Text) : Decidable (Bare text) := inferInstanceAs (Decidable (_ ≠ _))

theorem Bare.no_flag {text : Text} (bare : Bare text) : Flag.ofText? text = none := by
  cases known : Flag.ofText? text with
  | none => rfl
  | some flag => exact absurd (flag_dashed known) bare

theorem Bare.name {text : Text} (bare : Bare text) : Bare (splitValue text).1 := by
  have start : (splitValue text).1 = text.takeWhile fun s => decide (s ≠ Symbol.char '=') := by
    unfold splitValue
    dsimp only
    split
    · rfl
    · rename_i rest
      exact (List.takeWhile_eq_self_iff.mpr (List.dropWhile_eq_nil_iff.mp rest)).symm
  rw [start]
  cases text with
  | nil => exact bare
  | cons symbol rest =>
      intro dashed
      rw [List.takeWhile_cons] at dashed
      split at dashed
      · exact bare dashed
      · cases dashed

theorem Bare.classified {text : Text} (bare : Bare text) : classify text = .ok (.word text) := by
  unfold classify
  simp only [bare.no_flag, bare.name.no_flag]
  split <;> first | rfl | contradiction

def showingAll (path : Text) (limit : Nat) (minimize : Bool) : List Text :=
  [path, "--sensitivity", "--graph", "--max-iter", Text.ofString (toString limit)] ++
    if minimize then [Text.ofString "--min"] else []

def Options.showingAll (path : Text) (limit : Nat) (minimize : Bool) : Options :=
  { path := some path, min := minimize, limit := some limit, sensitivity := true, graph := true }

theorem bare_number (n : Nat) : Bare (Text.ofString (toString n)) := by
  rw [Nat.toString_eq_ofList_toDigits, Text.ofString, String.toList_ofList, Bare]
  cases digits : Nat.toDigits 10 n with
  | nil => simp
  | cons c rest =>
      have digit : c.isDigit = true := Decimal.digital_written n c (by simp [digits])
      simpa using (Decimal.digit_plain digit).2.2.1

theorem items_of_cons {argument : Text} {rest : List Text} {item : Item} {items : List Item}
    (apart : argument ≠ divider) (known : classify argument = .ok item) (others : itemsOf rest = .ok items) :
    itemsOf (argument :: rest) = .ok (item :: items) := by
  rw [itemsOf, if_neg apart, known, others]
  rfl

theorem Bare.item {text : Text} {rest : List Text} {items : List Item} (bare : Bare text)
    (others : itemsOf rest = .ok items) : itemsOf (text :: rest) = .ok (.word text :: items) := by
  refine items_of_cons ?_ bare.classified others
  rintro rfl
  exact bare rfl

theorem switch_item {spelling : String} {rest : List Text} {flag : Flag} {items : List Item}
    (apart : Text.ofString spelling ≠ divider) (known : Flag.ofText? (Text.ofString spelling) = some flag)
    (others : itemsOf rest = .ok items) :
    itemsOf (Text.ofString spelling :: rest) = .ok (.option flag none :: items) := by
  refine items_of_cons apart ?_ others
  unfold classify
  simp only [known]

def showingItems (path : Text) (limit : Nat) (minimize : Bool) : List Item :=
  .word path :: .option .sensitivity none :: .option .graph none :: .option .maxIter none ::
    .word (Text.ofString (toString limit)) :: if minimize then [.option .min none] else []

theorem read_showing_all {path : Text} {limit : Nat} (bare : Bare path) (small : limit ≤ 1000) (minimize : Bool) :
    read (showingAll path limit minimize) = .ok (.run (Options.showingAll path limit minimize)) := by
  have last : itemsOf (if minimize then [Text.ofString "--min"] else []) =
      .ok (if minimize then [.option .min none] else []) := by
    cases minimize with
    | false => rfl
    | true => exact switch_item (by decide) (by decide) rfl
  have items : itemsOf (showingAll path limit minimize) = .ok (showingItems path limit minimize) :=
    bare.item (switch_item (by decide) (by decide) (switch_item (by decide) (by decide)
      (switch_item (by decide) (by decide) ((bare_number limit).item last))))
  have number : Options.assign { path := some path, sensitivity := true, graph := true } .maxIter
      (Text.ofString (toString limit)) = .ok (Options.showingAll path limit false) := by
    have apart : Text.ofString (toString limit) ≠ divider := by
      intro same
      exact bare_number limit (same ▸ rfl)
    rw [Options.assign, if_neg apart, Decimal.read_number small]
    rfl
  have collected : collect {} (showingItems path limit minimize) =
      .ok (.run (Options.showingAll path limit minimize)) := by
    change (do collect (← Options.assign { path := some path, sensitivity := true, graph := true } .maxIter
      (Text.ofString (toString limit))) (if minimize then [.option .min none] else [])) = _
    rw [number, Outcome.ok_bind]
    cases minimize <;> rfl
  rw [read, items, Outcome.ok_bind, collected]
  rfl

end CommandLine

end LinProg
