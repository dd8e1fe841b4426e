import RecursiveMatrix.Decimal.Single
import RecursiveMatrix.Proofs.Binary32.Scientific
import RecursiveMatrix.Proofs.Numerals

namespace RecursiveMatrix.Decimal

open Binary32 Float.Model.UnpackedFloat

variable {cs ds whole part : List Char} {e : ℤ} {x : ℚ} {s : Sign} {f : Float32}

/-- The power of ten that a numeral may end in, behind a letter in either case. -/
inductive Power : List Char → ℤ → Prop
  | none : Power [] 0
  | plain {c : Char} {cs : List Char} {n : ℕ} (hc : c = 'e' ∨ c = 'E') (h : Numeral cs n) :
      Power (c :: cs) n
  | negative {c : Char} {ds : List Char} (hc : c = 'e' ∨ c = 'E') (hds : ds ≠ [])
      (hdigits : ∀ d ∈ ds, d.isDigit = true) : Power (c :: '-' :: ds) (-Nat.ofDigitChars 10 ds 0)

/-- Digits before and behind a point, which need not be written where none are behind it, and a power
of ten. -/
structure Parts (cs whole part : List Char) (e : ℤ) : Prop where
  digits : (∀ c ∈ whole, c.isDigit = true) ∧ ∀ c ∈ part, c.isDigit = true
  nonempty : whole ≠ [] ∨ part ≠ []
  text : ∃ tail, Power tail e ∧ (cs = whole ++ tail ∧ part = [] ∨ cs = whole ++ '.' :: (part ++ tail))

/-- The number that a text without a sign stands for. -/
def Fraction (cs : List Char) (x : ℚ) : Prop :=
  ∃ whole part e, Parts cs whole part e ∧
    x = (Nat.ofDigitChars 10 whole 0 + Nat.ofDigitChars 10 part 0 / 10 ^ part.length) * 10 ^ e

def Spells (cs : List Char) (word : String) : Prop := cs.map Char.toLower = word.toList

/-- What a text without a sign stands for once it is given the sign `s`. -/
inductive Unsigned (s : Sign) (cs : List Char) (f : Float32) : Prop
  | number {x : ℚ} (h : Fraction cs x) (hf : IsNearest s x f)
  | infinity (h : Spells cs "inf" ∨ Spells cs "infinity") (hs : sign? f = some s) (hf : f.isInf = true)
  | notANumber (h : Spells cs "nan") (hf : f.isNaN = true)

/-- The single nearest to the number that is written, or infinity or not-a-number by name, after an
optional sign. -/
inductive SingleNumeral (cs : List Char) (f : Float32) : Prop
  | plain (h : Unsigned .positive cs f)
  | plus {ds : List Char} (hcs : cs = '+' :: ds) (h : Unsigned .positive ds f)
  | minus {ds : List Char} (hcs : cs = '-' :: ds) (h : Unsigned .negative ds f)

theorem ofDigits_eq (cs : List Char) : ofDigits cs = Nat.ofDigitChars 10 cs 0 := by
  rw [ofDigits, Nat.ofDigitChars]
  congr
  funext n c
  rw [Nat.mul_comm]
  rfl

theorem signed_eq_some_iff {sign : ℤ} :
    (if ds ≠ [] ∧ ds.all Char.isDigit then some (sign * ofDigits ds) else none) = some e ↔
      ds ≠ [] ∧ (∀ d ∈ ds, d.isDigit = true) ∧ sign * Nat.ofDigitChars 10 ds 0 = e := by
  rw [ofDigits_eq, Option.ite_none_right_eq_some, List.all_eq_true, and_assoc, Option.some_inj]

theorem head_ne_of_digits {c : Char} (hc : c.isDigit = false) (h : ∀ d ∈ ds, d.isDigit = true)
    (cs : List Char) : ds ≠ c :: cs := by
  rintro rfl
  rw [h c List.mem_cons_self] at hc
  cases hc

theorem readExponent_eq_some_iff : readExponent cs = some e ↔ Power cs e := by
  constructor
  · intro h
    rw [readExponent.eq_def] at h
    split at h
    next =>
      cases h
      exact .none
    next c cs =>
      split at h
      next hc =>
        split at h
        next sign ds hds =>
          obtain ⟨hsome, hdigits, hvalue⟩ := signed_eq_some_iff.1 h
          split at hds
          next =>
            cases hds
            rw [← hvalue, Int.neg_one_mul]
            exact .negative hc hsome hdigits
          next =>
            cases hds
            rw [← hvalue, Int.one_mul]
            exact .plain hc ⟨_, .inr rfl, hsome, hdigits, rfl⟩
          next =>
            cases hds
            rw [← hvalue, Int.one_mul]
            exact .plain hc ⟨_, .inl rfl, hsome, hdigits, rfl⟩
      next => cases h
  · intro h
    cases h with
    | none => rfl
    | @negative c ds hc hds hdigits =>
        rw [readExponent, if_pos hc]
        exact signed_eq_some_iff.2 ⟨hds, hdigits, Int.neg_one_mul _⟩
    | @plain c cs n hc h =>
        obtain ⟨ds, rfl | rfl, hds, hdigits, rfl⟩ := h
        · rw [readExponent, if_pos hc]
          · exact signed_eq_some_iff.2 ⟨hds, hdigits, Int.one_mul _⟩
          · exact head_ne_of_digits rfl hdigits
          · exact head_ne_of_digits rfl hdigits
        · rw [readExponent, if_pos hc]
          exact signed_eq_some_iff.2 ⟨hds, hdigits, Int.one_mul _⟩

/-- Where the digits end. -/
def Stops (cs : List Char) : Prop := ∀ c ∈ cs.head?, c.isDigit = false

theorem Power.stops (h : Power cs e) : Stops cs := by
  cases h with
  | none => exact fun c hc => nomatch hc
  | plain hc | negative hc =>
      intro c hmem
      obtain rfl := Option.some.inj hmem
      rcases hc with rfl | rfl <;> rfl

theorem span_digits (hds : ∀ c ∈ ds, c.isDigit = true) (hcs : Stops cs) :
    (ds ++ cs).span Char.isDigit = (ds, cs) := by
  rw [List.span_eq_takeWhile_dropWhile, List.takeWhile_append_of_pos hds, List.dropWhile_append_of_pos hds]
  cases cs with
  | nil => simp
  | cons c cs =>
      have hc : ¬ c.isDigit = true := by simp [hcs c rfl]
      rw [List.takeWhile_cons_of_neg hc, List.dropWhile_cons_of_neg hc, List.append_nil]

theorem span_spec (cs : List Char) : (∀ c ∈ (cs.span Char.isDigit).1, c.isDigit = true) ∧
    (cs.span Char.isDigit).1 ++ (cs.span Char.isDigit).2 = cs := by
  rw [List.span_eq_takeWhile_dropWhile]
  exact ⟨fun c hc => List.mem_takeWhile_imp hc, List.takeWhile_append_dropWhile⟩

theorem readNumeral_of_parts (h : Parts cs whole part e) :
    readNumeral cs = some (nearest (ofDigits (whole ++ part)) (e - part.length)) := by
  obtain ⟨⟨hwhole, hpart⟩, hsome, tail, htail, ⟨rfl, rfl⟩ | rfl⟩ := h
  · rw [readNumeral, span_digits hwhole htail.stops]
    dsimp only
    split
    next ds =>
      cases htail with
      | plain hc | negative hc => exact absurd hc (by decide)
    next =>
      rw [if_neg (not_and_or.2 hsome), readExponent_eq_some_iff.2 htail]
      rfl
  · have hstops : Stops ('.' :: (part ++ tail)) := by
      intro c hc
      obtain rfl := Option.some.inj hc
      rfl
    rw [readNumeral, span_digits hwhole hstops]
    simp only [span_digits hpart htail.stops]
    rw [if_neg (not_and_or.2 hsome), readExponent_eq_some_iff.2 htail]
    rfl

theorem exists_parts (h : readNumeral cs = some f) : ∃ whole part e, Parts cs whole part e ∧
    nearest (ofDigits (whole ++ part)) (e - part.length) = f := by
  obtain ⟨hwhole, happend⟩ := span_spec cs
  rw [readNumeral] at h
  cases hspan : cs.span Char.isDigit with
  | mk whole rest =>
      rw [hspan] at h hwhole happend
      dsimp only at h hwhole happend
      split at h
      next ds =>
        obtain ⟨hpart, hds⟩ := span_spec ds
        obtain ⟨hsome, hmap⟩ := Option.ite_none_left_eq_some.1 h
        obtain ⟨e, he, hf⟩ := Option.map_eq_some_iff.1 hmap
        rw [readExponent_eq_some_iff] at he
        refine ⟨whole, _, e, ⟨⟨hwhole, hpart⟩, not_and_or.1 hsome, _, he, .inr ?_⟩, hf⟩
        rw [hds, happend]
      next =>
        obtain ⟨hsome, hmap⟩ := Option.ite_none_left_eq_some.1 h
        obtain ⟨e, he, hf⟩ := Option.map_eq_some_iff.1 hmap
        rw [readExponent_eq_some_iff] at he
        exact ⟨whole, [], e, ⟨⟨hwhole, List.forall_mem_nil _⟩, not_and_or.1 hsome, rest, he,
          .inl ⟨happend.symm, rfl⟩⟩, hf⟩

theorem isNearest_nearest (m : ℕ) (e : ℤ) : IsNearest .positive (m * 10 ^ e) (nearest m e) := by
  rw [nearest]
  split
  next he =>
    have hrounded := isNearest_ofScientific m true (-e).toNat
    rwa [if_pos rfl, Int.toNat_of_nonneg (by omega), neg_neg] at hrounded
  next he =>
    have hrounded := isNearest_ofScientific m false e.toNat
    rwa [if_neg Bool.false_ne_true, Int.toNat_of_nonneg (by omega)] at hrounded

theorem ofDigits_parts (whole part : List Char) (e : ℤ) :
    (ofDigits (whole ++ part) : ℚ) * 10 ^ (e - part.length) =
      (Nat.ofDigitChars 10 whole 0 + Nat.ofDigitChars 10 part 0 / 10 ^ part.length) * 10 ^ e := by
  rw [ofDigits_eq, Nat.ofDigitChars_append, Nat.ofDigitChars_eq_ofDigitChars_zero, zpow_sub₀ (by norm_num),
    zpow_natCast]
  push_cast
  field_simp

/-- A numeral is read as the single nearest to the number that it stands for. -/
theorem readNumeral_eq_some_iff :
    readNumeral cs = some f ↔ ∃ x, Fraction cs x ∧ IsNearest .positive x f := by
  have hrounded (whole part : List Char) (e : ℤ) :=
    isNearest_nearest (ofDigits (whole ++ part)) (e - part.length)
  simp only [ofDigits_parts] at hrounded
  constructor
  · intro h
    obtain ⟨whole, part, e, hparts, rfl⟩ := exists_parts h
    exact ⟨_, ⟨whole, part, e, hparts, rfl⟩, hrounded whole part e⟩
  · rintro ⟨x, ⟨whole, part, e, hparts, rfl⟩, hf⟩
    rw [readNumeral_of_parts hparts, (hrounded whole part e).unique hf]

theorem readName_eq_some_iff : readName cs = some f ↔
    (Spells cs "inf" ∨ Spells cs "infinity") ∧ f = 1 / 0 ∨ Spells cs "nan" ∧ f = 0 / 0 := by
  have hword (word : String) : Spells cs word ↔ String.ofList (Text.lower cs) = word := by
    rw [← String.toList_inj, String.toList_ofList]
    rfl
  rw [hword, hword, hword, readName]
  split
  next h => simp [h, eq_comm]
  next h => simp [h, eq_comm]
  next h => simp [h, eq_comm]
  next hinf hinfinity hnan =>
    constructor
    · exact (nomatch ·)
    · rintro (⟨h | h, -⟩ | ⟨h, -⟩)
      · exact (hinf h).elim
      · exact (hinfinity h).elim
      · exact (hnan h).elim

theorem Fraction.head (h : Fraction cs x) : ∃ c ds, cs = c :: ds ∧ (c.isDigit = true ∨ c = '.') := by
  obtain ⟨whole, part, e, ⟨⟨hwhole, -⟩, hsome, tail, -, hcs⟩, -⟩ := h
  cases whole with
  | cons c ds =>
      have hc := hwhole c List.mem_cons_self
      rcases hcs with ⟨rfl, -⟩ | rfl
      · exact ⟨c, _, rfl, .inl hc⟩
      · exact ⟨c, _, rfl, .inl hc⟩
  | nil =>
      rcases hcs with ⟨-, rfl⟩ | rfl
      · exact absurd hsome (by simp)
      · exact ⟨'.', _, rfl, .inr rfl⟩

theorem Spells.head {word : String} (h : Spells cs word)
    (hword : ∃ c ds, word.toList = c :: ds ∧ c.isAlpha = true) :
    ∃ c ds, cs = c :: ds ∧ c.isAlpha = true := by
  obtain ⟨c, ds, hds, hc⟩ := hword
  obtain ⟨d, rest, rfl, rfl, -⟩ := List.map_eq_cons_iff.1 (h.trans hds)
  rw [Char.isAlpha_toLower_eq_isAlpha] at hc
  exact ⟨d, rest, rfl, hc⟩

theorem head_of_name (h : (Spells cs "inf" ∨ Spells cs "infinity") ∨ Spells cs "nan") :
    ∃ c ds, cs = c :: ds ∧ c.isAlpha = true := by
  rcases h with (h | h) | h
  · exact h.head ⟨'i', _, rfl, rfl⟩
  · exact h.head ⟨'i', _, rfl, rfl⟩
  · exact h.head ⟨'n', _, rfl, rfl⟩

theorem not_isAlpha_of_isDigit {c : Char} (h : c.isDigit = true) : ¬ c.isAlpha = true := by
  simp [Char.isDigit, Char.isAlpha, Char.isUpper, Char.isLower, UInt32.le_iff_toNat_le] at h ⊢
  omega

theorem readNumeral_of_name (h : (Spells cs "inf" ∨ Spells cs "infinity") ∨ Spells cs "nan") :
    readNumeral cs = none := by
  obtain ⟨c, ds, rfl, hc⟩ := head_of_name h
  rw [Option.eq_none_iff_forall_ne_some]
  intro f hf
  obtain ⟨x, hx, -⟩ := readNumeral_eq_some_iff.1 hf
  obtain ⟨c', ds', heq, hdigit | rfl⟩ := hx.head
  · obtain ⟨rfl, -⟩ := List.cons.inj heq
    exact not_isAlpha_of_isDigit hdigit hc
  · obtain ⟨rfl, -⟩ := List.cons.inj heq
    exact absurd hc (by decide)

theorem readUnsigned_eq_ok_iff : readUnsigned cs = .ok f ↔ Unsigned .positive cs f := by
  have hinfinite : (1 / 0 : Float32).toModel.unpack = .infinity .positive := rfl
  have hnone : (0 / 0 : Float32).toModel.unpack = .notANumber := rfl
  have hread : readUnsigned cs = .ok f ↔ (readNumeral cs).or (readName cs) = some f := by
    rw [readUnsigned]
    split
    next v hv => simp [hv]
    next hv => simp [hv]
  rw [hread, Option.or_eq_some_iff, readNumeral_eq_some_iff, readName_eq_some_iff]
  constructor
  · rintro (⟨x, hx, hf⟩ | ⟨-, ⟨h, rfl⟩ | ⟨h, rfl⟩⟩)
    · exact .number hx hf
    · exact .infinity h rfl rfl
    · exact .notANumber h rfl
  · intro h
    cases h with
    | number hx hf => exact .inl ⟨_, hx, hf⟩
    | infinity h hs hf =>
        have hsame := unpack_injective ((unpack_of_isInf hs hf).trans hinfinite.symm)
        exact .inr ⟨readNumeral_of_name (.inl h), .inl ⟨h, hsame⟩⟩
    | notANumber h hf =>
        have hsame := unpack_injective ((isNaN_iff.1 hf).trans hnone.symm)
        exact .inr ⟨readNumeral_of_name (.inr h), .inr ⟨h, hsame⟩⟩

theorem Unsigned.neg (h : Unsigned s cs f) : Unsigned (-s) cs (-f) := by
  cases h with
  | number hx hf => exact .number hx hf.neg
  | infinity h hs hf => exact .infinity h (sign?_neg hs) (isInf_neg hf)
  | notANumber h hf => exact .notANumber h (isNaN_neg hf)

theorem Unsigned.head (h : Unsigned s cs f) :
    ∃ c ds, cs = c :: ds ∧ (c.isDigit = true ∨ c = '.' ∨ c.isAlpha = true) := by
  cases h with
  | number h =>
      obtain ⟨c, ds, hcs, hc⟩ := h.head
      exact ⟨c, ds, hcs, hc.imp_right .inl⟩
  | infinity h =>
      obtain ⟨c, ds, hcs, hc⟩ := head_of_name (.inl h)
      exact ⟨c, ds, hcs, .inr (.inr hc)⟩
  | notANumber h =>
      obtain ⟨c, ds, hcs, hc⟩ := head_of_name (.inr h)
      exact ⟨c, ds, hcs, .inr (.inr hc)⟩

/-- A text is read as a single if and only if it stands for that single. -/
theorem readSingle_eq_ok_iff : readSingle cs = .ok f ↔ SingleNumeral cs f := by
  constructor
  · intro h
    unfold readSingle at h
    split at h
    next => cases h
    next ds =>
      cases hds : readUnsigned ds with
      | error e =>
          rw [hds] at h
          cases h
      | ok g =>
          rw [hds] at h
          cases h
          exact .minus rfl (readUnsigned_eq_ok_iff.1 hds).neg
    next ds => exact .plus rfl (readUnsigned_eq_ok_iff.1 h)
    next => exact .plain (readUnsigned_eq_ok_iff.1 h)
  · intro h
    cases h with
    | plain h =>
        obtain ⟨c, ds, rfl, hc⟩ := h.head
        unfold readSingle
        split
        next heq => cases heq
        next heq =>
          obtain ⟨rfl, -⟩ := List.cons.inj heq
          exact absurd hc (by decide)
        next heq =>
          obtain ⟨rfl, -⟩ := List.cons.inj heq
          exact absurd hc (by decide)
        next => exact readUnsigned_eq_ok_iff.2 h
    | plus hcs h =>
        rw [hcs]
        exact readUnsigned_eq_ok_iff.2 h
    | minus hcs h =>
        have hpositive := readUnsigned_eq_ok_iff.2 h.neg
        rw [hcs, readSingle, hpositive]
        exact congrArg Except.ok (neg_involutive f)

end RecursiveMatrix.Decimal
