import Mathlib.Data.List.Basic
import Mathlib.Data.Nat.Digits
import CheckpointStore.Disk

/-!
# CheckpointStore.FileName — `checkFileName` and the stream extraction it runs

`checkFileName(fileName, pgId, splitId)` tells a checkpoint file by its name.  It checks the base
name `gs_cp_` at the front and the extension `.dat` at the end, then reads `num1 >> c >> num2`
(`uint32_t`, `char`, `int32_t`) from a `util::NormalIStringStream` placed after the base name,
and accepts when no extraction failed, `c` is `_` and the stream stands at the extension.

The extractions are the C++ library's formatted input in the classic locale, modelled here on a
stream that keeps the characters not yet read and its `eofbit` and `failbit`.  Each skips
leading whitespace; a number is an optional sign and a run of decimal digits, and fails on no
digit or a value out of range.  A `-` on the unsigned `num1` negates modulo `2 ^ 32`; `num2` is
read as a `long` and then range-checked for `int`.

* `checkFileName_accepts`, `checkFileName_sound`: the names accepted are exactly those of the
  grammar `AcceptedName` (blanks before each of the three fields, a sign on either number), with
  the ids it assigns.
* `checkFileName_round_trip`, `checkFileName_fileName`: the names `open` writes,
  `gs_cp_<pgId>_<splitId>.dat`, are among them and give back their ids.
-/

namespace CheckpointStore

/-- `isspace` in the classic locale: the space and `\t \n \v \f \r` (codes 9 to 13). -/
def isSpace (c : Char) : Bool := c.toNat == 32 || (9 ≤ c.toNat && c.toNat ≤ 13)

/-- The value of a run of decimal digits, accumulated left to right as `num_get` does. -/
def digitsValue (ds : List Char) : Nat := ds.foldl (fun v d => 10 * v + (d.toNat - 48)) 0

/-- The sign `num_get` reads first: whether it is `-`, and what follows it. -/
def scanSign : List Char → Bool × List Char
  | '-' :: r => (true, r)
  | '+' :: r => (false, r)
  | r => (false, r)

/-- A `util::NormalIStringStream`: the characters not yet extracted, `eofbit` and `failbit`. -/
structure IStringStream where
  rest : List Char
  eofbit : Bool
  failbit : Bool
  deriving DecidableEq, Repr

namespace IStringStream

/-- `fail()`. -/
def fail (iss : IStringStream) : Bool := iss.failbit

/-- `tellg()` on a stream over `length` characters: `pos_type(-1)`, here `none`, once `eofbit`
or `failbit` is set (its sentry fails). -/
def tellg (iss : IStringStream) (length : Nat) : Option Nat :=
  if iss.eofbit || iss.failbit then none else some (length - iss.rest.length)

/-- The `sentry` of a formatted extraction: on a stream that is not good it sets `failbit`;
otherwise it skips whitespace, and running out of characters sets `eofbit` and `failbit`. -/
def sentry (iss : IStringStream) : IStringStream :=
  if iss.eofbit || iss.failbit then { iss with failbit := true }
  else if (iss.rest.dropWhile isSpace).isEmpty then ⟨[], true, true⟩
  else { iss with rest := iss.rest.dropWhile isSpace }

/-- `num_get`'s reading of a decimal integer: an optional sign, then the run of digits.  It
fails with no digit, or with a magnitude over `maxPos` (no sign or `+`) or `maxNeg` (`-`);
running into the end sets `eofbit`.  The value is the signed magnitude. -/
def numGet (maxPos maxNeg : Nat) (iss : IStringStream) : IStringStream × Option Int :=
  let (neg, r) := scanSign iss.rest
  let digits := r.takeWhile Char.isDigit
  let rest := r.dropWhile Char.isDigit
  let v := digitsValue digits
  if digits = [] ∨ (if neg then maxNeg else maxPos) < v then (⟨rest, rest.isEmpty, true⟩, none)
  else (⟨rest, rest.isEmpty, false⟩, some (if neg then -(v : Int) else v))

/-- `operator>>(unsigned int&)`: `num_get` after the sentry, a `-` negating modulo `2 ^ 32`. -/
def getUInt32 (iss : IStringStream) : IStringStream × Option UInt32 :=
  let iss := iss.sentry
  if iss.failbit then (iss, none)
  else
    let r := numGet (2 ^ 32 - 1) (2 ^ 32 - 1) iss
    (r.1, r.2.map fun v => UInt32.ofNat (v % 2 ^ 32).toNat)

/-- `operator>>(char&)`: the sentry, then one character. -/
def getChar (iss : IStringStream) : IStringStream × Option Char :=
  let iss := iss.sentry
  if iss.failbit then (iss, none)
  else
    match iss.rest with
    | c :: rest => ({ iss with rest := rest }, some c)
    | [] => ({ iss with eofbit := true, failbit := true }, none)

/-- `operator>>(int&)`: the sentry, `num_get` for `long`, then the range check of `int`. -/
def getInt (iss : IStringStream) : IStringStream × Option Int :=
  let iss := iss.sentry
  if iss.failbit then (iss, none)
  else
    match numGet (2 ^ 63 - 1) (2 ^ 63) iss with
    | (iss, some l) =>
      if l < -2 ^ 31 ∨ 2 ^ 31 - 1 < l then ({ iss with failbit := true }, none) else (iss, some l)
    | r => r

end IStringStream

/-- `checkFileName(fileName, pgId, splitId)`: `some (pgId, splitId)` where it returns `true`,
`none` where it returns `false` (with `pgId = UNDEF_PARTITIONGROUPID`, `splitId = -1`).
`find(gsCpFileBaseName)` is 0 exactly when the name starts with the base name, and
`rfind(gsCpFileExtension)` plus the extension's length is the name's length exactly when the
name ends with the extension, which then starts at `pos = length - 4`. -/
def checkFileName (fileName : String) : Option (UInt32 × Int) :=
  let name := fileName.toList
  if !gsCpFileBaseName.toList.isPrefixOf name then none
  else if !gsCpFileExtension.toList.isSuffixOf name then none
  else
    let pos := name.length - gsCpFileExtension.length
    let iss : IStringStream := ⟨name.drop gsCpFileBaseName.length, false, false⟩
    let (iss, num1) := iss.getUInt32
    let (iss, c) := iss.getChar
    let (iss, num2) := iss.getInt
    if iss.fail then none
    else if c ≠ some '_' then none
    else if iss.tellg name.length ≠ some pos then none
    else
      match num1, num2 with
      | some p, some k => some (p, k)
      | _, _ => none

/-! ### Characters, signs and digits -/

/-- A sign as `num_get` reads it: none, `+` or `-`. -/
def IsSign (sign : List Char) : Prop := sign = [] ∨ sign = ['+'] ∨ sign = ['-']

instance (sign : List Char) : Decidable (IsSign sign) := inferInstanceAs (Decidable (_ ∨ _))

/-- The value of a sign and a run of digits. -/
def signedValue (sign digits : List Char) : Int :=
  if sign = ['-'] then -(digitsValue digits : Int) else digitsValue digits

theorem isSpace_of_isDigit {c : Char} (h : c.isDigit) : isSpace c = false := by
  simp only [Char.isDigit, Bool.and_eq_true, decide_eq_true_eq] at h
  have h₁ : 48 ≤ c.toNat := h.1
  have h₂ : c.toNat ≤ 57 := h.2
  simp only [isSpace]
  simp
  omega

theorem digitsValue_append_digit (ds : List Char) (d : Char) :
    digitsValue (ds ++ [d]) = 10 * digitsValue ds + (d.toNat - 48) := by
  simp [digitsValue, List.foldl_append]

theorem digitChar_spec : ∀ d < 10, (Nat.digitChar d).isDigit ∧ (Nat.digitChar d).toNat = 48 + d := by
  decide

theorem toDigitsCore_spec : ∀ (fuel n : Nat) (ds : List Char), n < fuel →
    ∃ L, Nat.toDigitsCore 10 fuel n ds = L ++ ds ∧ L ≠ [] ∧ (∀ c ∈ L, c.isDigit) ∧
      digitsValue L = n
  | 0, _, _, h => absurd h (Nat.not_lt_zero _)
  | fuel + 1, n, ds, h => by
    obtain ⟨hd, hv⟩ := digitChar_spec (n % 10) (Nat.mod_lt _ (by decide))
    unfold Nat.toDigitsCore
    dsimp only
    split
    · refine ⟨[Nat.digitChar (n % 10)], rfl, List.cons_ne_nil _ _,
        List.forall_mem_singleton.2 hd, ?_⟩
      simp only [digitsValue, List.foldl_cons, List.foldl_nil, hv]
      omega
    · obtain ⟨L, hL, -, hdig, hval⟩ :=
        toDigitsCore_spec fuel (n / 10) (Nat.digitChar (n % 10) :: ds) (by omega)
      refine ⟨L ++ [Nat.digitChar (n % 10)], by rw [hL, List.append_assoc, List.singleton_append],
        List.append_ne_nil_of_right_ne_nil _ (List.cons_ne_nil _ _),
        List.forall_mem_append.2 ⟨hdig, List.forall_mem_singleton.2 hd⟩, ?_⟩
      rw [digitsValue_append_digit, hval, hv]
      omega

/-- `Nat.toDigits 10 n`, the decimal `<<` writes: a non-empty run of digits worth `n`. -/
theorem toDigits_spec (n : Nat) : Nat.toDigits 10 n ≠ [] ∧ (∀ c ∈ Nat.toDigits 10 n, c.isDigit) ∧
    digitsValue (Nat.toDigits 10 n) = n := by
  obtain ⟨L, hL, h⟩ := toDigitsCore_spec (n + 1) n [] (Nat.lt_succ_self n)
  rw [List.append_nil] at hL
  rw [Nat.toDigits, hL]
  exact h

theorem scanSign_sign_digit {sign r : List Char} {d : Char} (hs : IsSign sign) (hd : d.isDigit) :
    scanSign (sign ++ d :: r) = (decide (sign = ['-']), d :: r) := by
  have h₁ : d ≠ '-' := by rintro rfl; exact absurd hd (by decide)
  have h₂ : d ≠ '+' := by rintro rfl; exact absurd hd (by decide)
  rcases hs with rfl | rfl | rfl <;> simp [scanSign, h₁, h₂]

theorem scanSign_spec (l : List Char) :
    ∃ sign, IsSign sign ∧ l = sign ++ (scanSign l).2 ∧ (scanSign l).1 = decide (sign = ['-']) := by
  unfold scanSign
  split
  · exact ⟨['-'], .inr (.inr rfl), rfl, rfl⟩
  · exact ⟨['+'], .inr (.inl rfl), rfl, rfl⟩
  · exact ⟨[], .inl rfl, rfl, rfl⟩

theorem takeWhile_digits {digits rest : List Char} (hdig : ∀ c ∈ digits, c.isDigit)
    (hrest : ∀ c r, rest = c :: r → c.isDigit = false) :
    (digits ++ rest).takeWhile Char.isDigit = digits ∧
      (digits ++ rest).dropWhile Char.isDigit = rest := by
  rw [List.takeWhile_append_of_pos hdig, List.dropWhile_append_of_pos hdig]
  cases rest with
  | nil => simp
  | cons c r => simp [hrest c r rfl]

theorem exists_head_not_space {sign digits : List Char} (rest : List Char) (hs : IsSign sign)
    (hne : digits ≠ []) (hdig : ∀ c ∈ digits, c.isDigit) :
    ∃ c r, sign ++ digits ++ rest = c :: r ∧ isSpace c = false := by
  obtain ⟨d, ds, rfl⟩ := List.exists_cons_of_ne_nil hne
  rcases hs with rfl | rfl | rfl
  · exact ⟨d, _, rfl, isSpace_of_isDigit (hdig d (List.mem_cons_self _ _))⟩
  · exact ⟨_, _, rfl, show isSpace '+' = false by decide⟩
  · exact ⟨_, _, rfl, show isSpace '-' = false by decide⟩

theorem head_not_digit_of_blank {blank t : List Char} (hb : ∀ x ∈ blank, isSpace x) :
    ∀ c r, blank ++ '_' :: t = c :: r → c.isDigit = false := by
  intro c r h
  cases blank with
  | nil => cases h; decide
  | cons x xs =>
    cases h
    cases hd : c.isDigit
    · rfl
    · exact absurd (hb c (List.mem_cons_self _ _)) (by simp [isSpace_of_isDigit hd])

theorem extension_head_not_digit : ∀ c r, gsCpFileExtension.toList = c :: r → c.isDigit = false := by
  intro c r h
  have h' : ['.', 'd', 'a', 't'] = c :: r := h
  cases h'
  rfl

namespace IStringStream

/-! ### Each extraction on the input it accepts -/

theorem sentry_skip {blank r : List Char} {c : Char} (hb : ∀ x ∈ blank, isSpace x)
    (hc : isSpace c = false) : sentry ⟨blank ++ c :: r, false, false⟩ = ⟨c :: r, false, false⟩ := by
  simp [sentry, List.dropWhile_append_of_pos hb, hc]

theorem numGet_read {maxPos maxNeg : Nat} {sign digits rest : List Char} {e f : Bool}
    (hs : IsSign sign) (hne : digits ≠ []) (hdig : ∀ c ∈ digits, c.isDigit)
    (hrest : ∀ c r, rest = c :: r → c.isDigit = false)
    (hv : digitsValue digits ≤ if sign = ['-'] then maxNeg else maxPos) :
    numGet maxPos maxNeg ⟨sign ++ digits ++ rest, e, f⟩ =
      (⟨rest, rest.isEmpty, false⟩, some (signedValue sign digits)) := by
  obtain ⟨d, ds, rfl⟩ := List.exists_cons_of_ne_nil hne
  obtain ⟨ht, hd⟩ := takeWhile_digits hdig hrest
  simp only [numGet, List.append_assoc, List.cons_append]
  rw [scanSign_sign_digit hs (hdig d (List.mem_cons_self _ _))]
  simp only [← List.cons_append, ht, hd, signedValue, decide_eq_true_eq]
  rw [if_neg (by simp only [reduceCtorEq, false_or, not_lt]; exact hv)]

theorem getUInt32_read {blank sign digits rest : List Char} (hb : ∀ x ∈ blank, isSpace x)
    (hs : IsSign sign) (hne : digits ≠ []) (hdig : ∀ c ∈ digits, c.isDigit)
    (hrest : ∀ c r, rest = c :: r → c.isDigit = false) (hv : digitsValue digits < 2 ^ 32) :
    getUInt32 ⟨blank ++ (sign ++ digits ++ rest), false, false⟩ =
      (⟨rest, rest.isEmpty, false⟩, some (UInt32.ofNat (signedValue sign digits % 2 ^ 32).toNat)) := by
  obtain ⟨c, r, hcr, hc⟩ := exists_head_not_space rest hs hne hdig
  rw [getUInt32, hcr, sentry_skip hb hc, ← hcr]
  simp only [Bool.false_eq_true, if_false]
  rw [numGet_read hs hne hdig hrest (by split <;> omega)]
  rfl

theorem getChar_read {blank r : List Char} {c : Char} (hb : ∀ x ∈ blank, isSpace x)
    (hc : isSpace c = false) : getChar ⟨blank ++ c :: r, false, false⟩ = (⟨r, false, false⟩, some c) := by
  simp [getChar, sentry_skip hb hc]

theorem getInt_read {blank sign digits rest : List Char} (hb : ∀ x ∈ blank, isSpace x)
    (hs : IsSign sign) (hne : digits ≠ []) (hdig : ∀ c ∈ digits, c.isDigit)
    (hrest : ∀ c r, rest = c :: r → c.isDigit = false)
    (hlo : -2 ^ 31 ≤ signedValue sign digits) (hhi : signedValue sign digits < 2 ^ 31) :
    getInt ⟨blank ++ (sign ++ digits ++ rest), false, false⟩ =
      (⟨rest, rest.isEmpty, false⟩, some (signedValue sign digits)) := by
  obtain ⟨c, r, hcr, hc⟩ := exists_head_not_space rest hs hne hdig
  have hv : digitsValue digits ≤ if sign = ['-'] then 2 ^ 63 else 2 ^ 63 - 1 := by
    unfold signedValue at hlo hhi
    split_ifs at hlo hhi ⊢ <;> omega
  rw [getInt, hcr, sentry_skip hb hc, ← hcr]
  simp only [Bool.false_eq_true, if_false]
  rw [numGet_read hs hne hdig hrest hv]
  simp only [if_neg (show ¬(signedValue sign digits < -2 ^ 31 ∨ 2 ^ 31 - 1 < signedValue sign digits)
    by omega)]

/-! ### What each extraction read, when it stored a value -/

theorem sentry_good {iss : IStringStream} (h : iss.sentry.failbit = false) :
    iss.eofbit = false ∧ iss.failbit = false ∧ iss.sentry.eofbit = false ∧
      ∃ blank, (∀ x ∈ blank, isSpace x) ∧ iss.rest = blank ++ iss.sentry.rest := by
  unfold sentry at h ⊢
  split_ifs at h ⊢ with h₁
  simp only [Bool.or_eq_true, not_or, Bool.not_eq_true] at h₁
  exact ⟨h₁.1, h₁.2, h₁.1, _, fun x hx => List.mem_takeWhile_imp hx,
    (List.takeWhile_append_dropWhile _ _).symm⟩

theorem numGet_some {maxPos maxNeg : Nat} {iss iss' : IStringStream} {v : Int}
    (h : numGet maxPos maxNeg iss = (iss', some v)) :
    iss'.failbit = false ∧ iss'.eofbit = iss'.rest.isEmpty ∧
      ∃ sign digits, IsSign sign ∧ digits ≠ [] ∧ (∀ c ∈ digits, c.isDigit) ∧
        iss.rest = sign ++ digits ++ iss'.rest ∧
        digitsValue digits ≤ (if sign = ['-'] then maxNeg else maxPos) ∧
        v = signedValue sign digits := by
  obtain ⟨sign, hs, hl, hneg⟩ := scanSign_spec iss.rest
  unfold numGet at h
  generalize scanSign iss.rest = sr at h hl hneg
  obtain ⟨neg, r⟩ := sr
  dsimp only at h hl hneg
  subst hneg
  simp only [decide_eq_true_eq] at h
  by_cases hbad : r.takeWhile Char.isDigit = [] ∨
      (if sign = ['-'] then maxNeg else maxPos) < digitsValue (r.takeWhile Char.isDigit)
  · rw [if_pos hbad] at h
    cases h
  · rw [if_neg hbad] at h
    obtain ⟨rfl, hv⟩ := Prod.mk.inj h
    simp only [not_or, not_lt] at hbad
    exact ⟨rfl, rfl, sign, _, hs, hbad.1, fun c hc => List.mem_takeWhile_imp hc,
      by rw [hl, List.append_assoc, List.takeWhile_append_dropWhile], hbad.2,
      (Option.some.inj hv).symm⟩

theorem getUInt32_some {iss iss' : IStringStream} {p : UInt32} (h : iss.getUInt32 = (iss', some p)) :
    iss'.failbit = false ∧ iss'.eofbit = iss'.rest.isEmpty ∧
      ∃ blank sign digits, (∀ x ∈ blank, isSpace x) ∧ IsSign sign ∧ digits ≠ [] ∧
        (∀ c ∈ digits, c.isDigit) ∧ iss.rest = blank ++ (sign ++ digits ++ iss'.rest) ∧
        digitsValue digits < 2 ^ 32 ∧ p = UInt32.ofNat (signedValue sign digits % 2 ^ 32).toNat := by
  dsimp only [getUInt32] at h
  split_ifs at h with hf
  · cases h
  obtain ⟨-, -, -, blank, hb, hrest⟩ := sentry_good (by simpa using hf)
  obtain ⟨h₁, h₂⟩ := Prod.mk.inj h
  obtain ⟨v, hv, rfl⟩ := Option.map_eq_some'.mp h₂
  obtain ⟨hf', he', sign, digits, hs, hne, hdig, hr, hbound, rfl⟩ :=
    numGet_some (Prod.ext h₁ hv : numGet _ _ iss.sentry = (iss', some v))
  refine ⟨hf', he', blank, sign, digits, hb, hs, hne, hdig, by rw [hrest, hr], ?_, rfl⟩
  split_ifs at hbound <;> omega

theorem getChar_some {iss iss' : IStringStream} {c : Char} (h : iss.getChar = (iss', some c)) :
    iss'.eofbit = false ∧ iss'.failbit = false ∧
      ∃ blank, (∀ x ∈ blank, isSpace x) ∧ iss.rest = blank ++ c :: iss'.rest := by
  dsimp only [getChar] at h
  split_ifs at h with hf
  · cases h
  obtain ⟨-, -, he, blank, hb, hrest⟩ := sentry_good (by simpa using hf)
  split at h <;> rename_i hr
  · cases h
    exact ⟨he, by simpa using hf, blank, hb, by rw [hrest, hr]⟩
  · cases h

theorem getInt_some {iss iss' : IStringStream} {k : Int} (h : iss.getInt = (iss', some k)) :
    iss'.failbit = false ∧ iss'.eofbit = iss'.rest.isEmpty ∧
      ∃ blank sign digits, (∀ x ∈ blank, isSpace x) ∧ IsSign sign ∧ digits ≠ [] ∧
        (∀ c ∈ digits, c.isDigit) ∧ iss.rest = blank ++ (sign ++ digits ++ iss'.rest) ∧
        -2 ^ 31 ≤ k ∧ k < 2 ^ 31 ∧ k = signedValue sign digits := by
  dsimp only [getInt] at h
  split_ifs at h with hf
  · cases h
  obtain ⟨-, -, -, blank, hb, hrest⟩ := sentry_good (by simpa using hf)
  split at h <;> rename_i hm
  · split_ifs at h with hr
    · cases h
    · cases h
      obtain ⟨hf', he', sign, digits, hs, hne, hdig, hr', -, rfl⟩ := numGet_some hm
      exact ⟨hf', he', blank, sign, digits, hb, hs, hne, hdig, by rw [hrest, hr'], by omega, by omega,
        rfl⟩
  · exact absurd h (hm iss' k)

end IStringStream

/-! ### The names `checkFileName` accepts -/

/-- A name as `checkFileName`'s extractions read it: `gs_cp_`; blanks, a sign and the digits of
`pgId`; blanks and `_`; blanks, a sign and the digits of the split id; `.dat`.  The digits of
`pgId` are worth less than `2 ^ 32`, and the split id lies in the range of `int`. -/
structure AcceptedName where
  blank₁ : List Char
  sign₁ : List Char
  digits₁ : List Char
  blank₂ : List Char
  blank₃ : List Char
  sign₂ : List Char
  digits₂ : List Char
  blank₁_space : ∀ x ∈ blank₁, isSpace x
  blank₂_space : ∀ x ∈ blank₂, isSpace x
  blank₃_space : ∀ x ∈ blank₃, isSpace x
  sign₁_sign : IsSign sign₁
  sign₂_sign : IsSign sign₂
  digits₁_ne : digits₁ ≠ []
  digits₂_ne : digits₂ ≠ []
  digits₁_digit : ∀ c ∈ digits₁, c.isDigit
  digits₂_digit : ∀ c ∈ digits₂, c.isDigit
  pgId_lt : digitsValue digits₁ < 2 ^ 32
  splitId_ge : -2 ^ 31 ≤ signedValue sign₂ digits₂
  splitId_lt : signedValue sign₂ digits₂ < 2 ^ 31

namespace AcceptedName

/-- The characters of the name. -/
def chars (a : AcceptedName) : List Char :=
  gsCpFileBaseName.toList ++ (a.blank₁ ++ (a.sign₁ ++ a.digits₁ ++
    (a.blank₂ ++ '_' :: (a.blank₃ ++ (a.sign₂ ++ a.digits₂ ++ gsCpFileExtension.toList)))))

/-- The `pgId` the name stands for: a `-` negates modulo `2 ^ 32`. -/
def pgId (a : AcceptedName) : UInt32 := UInt32.ofNat (signedValue a.sign₁ a.digits₁ % 2 ^ 32).toNat

/-- The split id the name stands for. -/
def splitId (a : AcceptedName) : Int := signedValue a.sign₂ a.digits₂

end AcceptedName

open IStringStream

/-- **Every accepted name is accepted**, with the ids it stands for. -/
theorem checkFileName_accepts (a : AcceptedName) :
    checkFileName ⟨a.chars⟩ = some (a.pgId, a.splitId) := by
  have hpre : gsCpFileBaseName.toList.isPrefixOf a.chars :=
    List.isPrefixOf_iff_prefix.mpr (List.prefix_append _ _)
  have hsuf : gsCpFileExtension.toList.isSuffixOf a.chars :=
    List.isSuffixOf_iff_suffix.mpr ⟨gsCpFileBaseName.toList ++ (a.blank₁ ++ (a.sign₁ ++ a.digits₁ ++
      (a.blank₂ ++ '_' :: (a.blank₃ ++ (a.sign₂ ++ a.digits₂))))), by simp [AcceptedName.chars]⟩
  have hdrop : a.chars.drop gsCpFileBaseName.length = a.blank₁ ++ (a.sign₁ ++ a.digits₁ ++
      (a.blank₂ ++ '_' :: (a.blank₃ ++ (a.sign₂ ++ a.digits₂ ++ gsCpFileExtension.toList)))) :=
    List.drop_left _ _
  have h₁ := getUInt32_read a.blank₁_space a.sign₁_sign a.digits₁_ne a.digits₁_digit
    (head_not_digit_of_blank (t := a.blank₃ ++ (a.sign₂ ++ a.digits₂ ++ gsCpFileExtension.toList))
      a.blank₂_space) a.pgId_lt
  have h₂ := getChar_read (r := a.blank₃ ++ (a.sign₂ ++ a.digits₂ ++ gsCpFileExtension.toList))
    a.blank₂_space (show isSpace '_' = false by decide)
  have h₃ := getInt_read a.blank₃_space a.sign₂_sign a.digits₂_ne a.digits₂_digit
    extension_head_not_digit a.splitId_ge a.splitId_lt
  have hname : (⟨a.chars⟩ : String).toList = a.chars := rfl
  unfold checkFileName
  dsimp only
  rw [hname, hpre, hsuf, hdrop, h₁]
  simp only [Bool.not_true, Bool.false_eq_true, if_false]
  have he : (a.blank₂ ++ '_' :: (a.blank₃ ++ (a.sign₂ ++ a.digits₂ ++
      gsCpFileExtension.toList))).isEmpty = false := by
    simp [List.isEmpty_iff]
  have hext : gsCpFileExtension.toList.isEmpty = false := rfl
  have ht : (⟨gsCpFileExtension.toList, false, false⟩ : IStringStream).tellg a.chars.length =
      some (a.chars.length - gsCpFileExtension.length) := rfl
  simp only [he, h₂, h₃, hext, fail, ht, Bool.false_eq_true, if_false, ne_eq, not_true_eq_false]
  rfl

/-- **Only accepted names are accepted**, with the ids they stand for. -/
theorem checkFileName_sound {fileName : String} {p : UInt32} {k : Int}
    (h : checkFileName fileName = some (p, k)) :
    ∃ a : AcceptedName, fileName.toList = a.chars ∧ p = a.pgId ∧ k = a.splitId := by
  unfold checkFileName at h
  dsimp only at h
  generalize h₁ : getUInt32 ⟨fileName.toList.drop gsCpFileBaseName.length, false, false⟩ = r₁ at h
  obtain ⟨iss₁, num₁⟩ := r₁
  generalize h₂ : iss₁.getChar = r₂ at h
  obtain ⟨iss₂, c⟩ := r₂
  generalize h₃ : iss₂.getInt = r₃ at h
  obtain ⟨iss₃, num₂⟩ := r₃
  dsimp only at h
  simp only [Option.ite_none_left_eq_some] at h
  obtain ⟨hpre, hsuf, -, hc, ht, h⟩ := h
  rcases num₁ with _ | p' <;> rcases num₂ with _ | k' <;> simp only [reduceCtorEq] at h
  obtain ⟨rfl, rfl⟩ := Prod.mk.inj (Option.some.inj h)
  simp only [ne_eq, not_not] at hc
  subst hc
  obtain ⟨-, -, blank₁, sign₁, digits₁, hb₁, hs₁, hne₁, hdig₁, hr₁, hlt₁, rfl⟩ := getUInt32_some h₁
  obtain ⟨-, -, blank₂, hb₂, hr₂⟩ := getChar_some h₂
  obtain ⟨-, -, blank₃, sign₂, digits₂, hb₃, hs₂, hne₂, hdig₂, hr₃, hge, hlt, rfl⟩ := getInt_some h₃
  have hname : fileName.toList = gsCpFileBaseName.toList ++ (blank₁ ++ (sign₁ ++ digits₁ ++
      (blank₂ ++ '_' :: (blank₃ ++ (sign₂ ++ digits₂ ++ iss₃.rest))))) := by
    rw [← hr₃, ← hr₂, ← hr₁]
    exact (List.prefix_iff_eq_append.mp (List.isPrefixOf_iff_prefix.mp (by simpa using hpre))).symm
  have hrest : iss₃.rest = gsCpFileExtension.toList := by
    have hs : iss₃.rest <:+ fileName.toList := ⟨gsCpFileBaseName.toList ++ (blank₁ ++
      (sign₁ ++ digits₁ ++ (blank₂ ++ '_' :: (blank₃ ++ (sign₂ ++ digits₂))))), by rw [hname]; simp⟩
    have he : gsCpFileExtension.toList <:+ fileName.toList :=
      List.isSuffixOf_iff_suffix.mp (by simpa using hsuf)
    simp only [tellg, ne_eq, not_not] at ht
    split_ifs at ht
    have hlen := Option.some.inj ht
    have h₁ := hs.length_le
    have h₂ := he.length_le
    have h₄ : gsCpFileExtension.length = gsCpFileExtension.toList.length := rfl
    exact (List.suffix_of_suffix_length_le hs he (by omega)).eq_of_length (by omega)
  exact ⟨⟨blank₁, sign₁, digits₁, blank₂, blank₃, sign₂, digits₂, hb₁, hb₂, hb₃, hs₁, hs₂, hne₁,
    hne₂, hdig₁, hdig₂, hlt₁, hge, hlt⟩, by rw [hname, hrest]; rfl, rfl, rfl⟩

/-- **`checkFileName` accepts exactly the accepted names**, with the ids they stand for.  Beyond
the names `open` writes, these have blanks before either number and before the `_`, and a sign
on either number, a `-` on `pgId` wrapping modulo `2 ^ 32`. -/
theorem checkFileName_iff_accepted (fileName : String) (p : UInt32) (k : Int) :
    checkFileName fileName = some (p, k) ↔
      ∃ a : AcceptedName, fileName.toList = a.chars ∧ p = a.pgId ∧ k = a.splitId := by
  refine ⟨checkFileName_sound, ?_⟩
  rintro ⟨a, h, rfl, rfl⟩
  obtain ⟨name⟩ := fileName
  cases h
  exact checkFileName_accepts a

theorem checkFileName_accepts_blank_and_sign :
    checkFileName "gs_cp_ 17_3.dat" = some (17, 3) ∧
      checkFileName "gs_cp_-1_0.dat" = some (4294967295, 0) :=
  ⟨(checkFileName_iff_accepted _ _ _).2 ⟨⟨[' '], [], ['1', '7'], [], [], [], ['3'], by decide,
      by decide, by decide, by decide, by decide, by decide, by decide, by decide, by decide,
      by decide, by decide, by decide⟩, rfl, rfl, rfl⟩,
    (checkFileName_iff_accepted _ _ _).2 ⟨⟨[], ['-'], ['1'], [], [], [], ['0'], by decide,
      by decide, by decide, by decide, by decide, by decide, by decide, by decide, by decide,
      by decide, by decide, by decide⟩, rfl, rfl, rfl⟩⟩

/-! ### The names `open` writes -/

/-- `<<` writes a split id as its sign and the digits of its magnitude. -/
theorem signedValue_canonical (k : Int) :
    signedValue (if k < 0 then ['-'] else []) (Nat.toDigits 10 k.natAbs) = k := by
  rw [signedValue, (toDigits_spec _).2.2]
  by_cases hk : k < 0
  · rw [if_pos hk, if_pos rfl]
    omega
  · rw [if_neg hk, if_neg (by simp)]
    omega

namespace AcceptedName

/-- `gs_cp_<pgId>_<splitId>.dat` as `<<` writes it: no blank, and no sign but a `-`. -/
def ofIds (pgId : UInt32) (splitId : Int) (h₁ : -2 ^ 31 ≤ splitId) (h₂ : splitId < 2 ^ 31) :
    AcceptedName where
  blank₁ := []
  sign₁ := []
  digits₁ := Nat.toDigits 10 pgId.toNat
  blank₂ := []
  blank₃ := []
  sign₂ := if splitId < 0 then ['-'] else []
  digits₂ := Nat.toDigits 10 splitId.natAbs
  blank₁_space := by simp
  blank₂_space := by simp
  blank₃_space := by simp
  sign₁_sign := .inl rfl
  sign₂_sign := by unfold IsSign; split_ifs <;> simp
  digits₁_ne := (toDigits_spec _).1
  digits₂_ne := (toDigits_spec _).1
  digits₁_digit := (toDigits_spec _).2.1
  digits₂_digit := (toDigits_spec _).2.1
  pgId_lt := by rw [(toDigits_spec _).2.2]; exact pgId.toNat_lt_size
  splitId_ge := by rw [signedValue_canonical]; exact h₁
  splitId_lt := by rw [signedValue_canonical]; exact h₂

variable {pgId : UInt32} {splitId : Int} {h₁ : -2 ^ 31 ≤ splitId} {h₂ : splitId < 2 ^ 31}

theorem ofIds_pgId : (ofIds pgId splitId h₁ h₂).pgId = pgId := by
  have hlt : pgId.toNat < 4294967296 := pgId.toNat_lt_size
  apply UInt32.toNat.inj
  simp only [AcceptedName.pgId, ofIds, signedValue, (toDigits_spec _).2.2,
    if_neg (show ([] : List Char) ≠ ['-'] by decide)]
  rw [UInt32.toNat_ofNat_of_lt (by simp only [UInt32.size]; omega)]
  omega

theorem ofIds_splitId : (ofIds pgId splitId h₁ h₂).splitId = splitId :=
  signedValue_canonical splitId

theorem ofIds_chars : (⟨(ofIds pgId splitId h₁ h₂).chars⟩ : String) =
    gsCpFileBaseName ++ toString pgId ++ gsCpFileSeparator ++ toString splitId ++
      gsCpFileExtension := by
  have happ : ∀ s t : String, (s ++ t).toList = s.toList ++ t.toList := fun _ _ => rfl
  have hk : (toString splitId).toList =
      (if splitId < 0 then ['-'] else []) ++ Nat.toDigits 10 splitId.natAbs := by
    cases splitId with
    | ofNat m => rfl
    | negSucc m => rw [if_pos (Int.negSucc_lt_zero m)]; rfl
  have hl : (ofIds pgId splitId h₁ h₂).chars = (gsCpFileBaseName ++ toString pgId ++
      gsCpFileSeparator ++ toString splitId ++ gsCpFileExtension).toList := by
    simp only [chars, ofIds, happ, hk, List.append_assoc, List.nil_append]
    rfl
  rw [hl]
  rfl

end AcceptedName

/-- The names `open` writes are taken apart into their `pgId` and split id. -/
theorem checkFileName_fileName (c : Config) (i : Nat) (hp : c.pgId_ < 2 ^ 32)
    (hi : (c.fileName i).splitId < 2 ^ 31) :
    checkFileName { c.fileName i with dirPart := "" }.path =
      some (UInt32.ofNat c.pgId_, ((c.fileName i).splitId : Int)) := by
  have h := checkFileName_accepts (AcceptedName.ofIds (UInt32.ofNat c.pgId_) (c.fileName i).splitId
    (by omega) (by omega))
  rw [AcceptedName.ofIds_chars, AcceptedName.ofIds_pgId, AcceptedName.ofIds_splitId] at h
  have hpg : (c.fileName i).pgId = c.pgId_ := by unfold Config.fileName; split <;> rfl
  have hto : toString (UInt32.ofNat c.pgId_) = toString c.pgId_ :=
    congrArg toString (UInt32.toNat_ofNat_of_lt hp)
  rw [hto] at h
  rw [← h, CpFileName.path, hpg]
  rfl

/-- **Round trip.**  For every `pgId` and every split id in the range of `int`, `checkFileName`
takes `gs_cp_<pgId>_<splitId>.dat` apart into exactly those ids. -/
theorem checkFileName_round_trip (pgId : UInt32) (splitId : Int) (h₁ : -2 ^ 31 ≤ splitId)
    (h₂ : splitId < 2 ^ 31) :
    checkFileName (gsCpFileBaseName ++ toString pgId ++ gsCpFileSeparator ++ toString splitId ++
      gsCpFileExtension) = some (pgId, splitId) := by
  have h := checkFileName_accepts (AcceptedName.ofIds pgId splitId h₁ h₂)
  rwa [AcceptedName.ofIds_chars, AcceptedName.ofIds_pgId, AcceptedName.ofIds_splitId] at h

theorem checkFileName_round_trip_extremes :
    checkFileName (gsCpFileBaseName ++ toString (4294967295 : UInt32) ++ gsCpFileSeparator ++
      toString (-2147483648 : Int) ++ gsCpFileExtension) = some (4294967295, -2147483648) :=
  checkFileName_round_trip 4294967295 (-2147483648) (by decide) (by decide)

end CheckpointStore
