import Coproto.Source.CLP
import Mathlib.Data.Fin.Basic
import Mathlib.Data.List.Chain
import Mathlib.Data.List.Count
import Mathlib.Algebra.Order.Ring.Int
import Mathlib.Tactic.Ring

/-!
# Ranges of values

Common/CLP.h:162-186. `a..b` stands for `a` and the integers strictly between `a`
and `b`. The loop asks for `x < end` in both directions: going up this is right,
going down from `b + 2` or more it stops at once, and from `a = b` it runs down to
the least value of the type. For a character type `>>` reads the first character of
a value, and its code is what the value gives.
-/
namespace Coproto

/-! ## Value tokens -/

inductive Sign where
  | none | plus | minus
  deriving DecidableEq, Repr

def Sign.chars : Sign → List Char
  | .none => []
  | .plus => ['+']
  | .minus => ['-']

def digitChar (d : Fin 10) : Char := Char.ofNat (48 + d.val)

/-- A number as it is written, with leading zeros if one likes. -/
structure Numeral where
  sign : Sign
  digits : List (Fin 10)
  nonempty : digits ≠ []

namespace Numeral

def chars (n : Numeral) : List Char := n.sign.chars ++ n.digits.map digitChar

def magnitude (n : Numeral) : Nat := n.digits.foldl (fun m d => 10 * m + d.val) 0

def value (n : Numeral) : Int := if n.sign = .minus then -n.magnitude else n.magnitude

/-- The code of its first character. -/
def code (n : Numeral) : Int := (n.chars.headD '0').toNat

end Numeral

inductive Token where
  | one (a : Numeral)
  | range (a b : Numeral)

def Token.first : Token → Numeral
  | one a => a
  | range a _ => a

/-- The integers strictly between two bounds, from the first one towards the second. -/
def between (a b : Int) : List Int :=
  if a < b then (List.range (b - a - 1).toNat).map fun i : Nat => a + 1 + i
  else (List.range (a - b - 1).toNat).map fun i : Nat => a - 1 - i

namespace Token

def text : Token → String
  | one a => String.ofList a.chars
  | range a b => String.ofList (a.chars ++ '.' :: '.' :: b.chars)

def Representable (T : IntegralType) : Token → Prop
  | one a => T.fits a.value = true
  | range a b => T.fits a.value = true ∧ T.fits b.value = true

/-- What the token stands for. -/
def values : Token → List Int
  | one a => [a.value]
  | range a b => a.value :: between a.value b.value

/-- Ascending bounds, bounds with nothing between them, and equal ones where the
type goes round. A character type takes a number whose first character has that very
code, and nothing between two bounds. -/
def Expands (T : IntegralType) : Token → Prop
  | one a => T.reads = .character → a.code = a.value
  | range a b =>
    (T.reads = .number → a.value < b.value ∨ a.value = b.value + 1 ∨
      (a.value = b.value ∧ a.value = T.min ∧ T.wraps = true)) ∧
    (T.reads = .character → a.code = a.value ∧ (b.value - a.value).natAbs ≤ 1)

end Token

/-- The tokens give what they stand for, in few rounds of the loop: a round is what
pushes a value behind the first one. -/
structure Expanded (T : IntegralType) (uninit : Int) (tokens : List Token)
    (result : Except CLPFault (List Int)) : Prop where
  result : result = .ok (tokens.flatMap Token.values)
  rounds : ∀ a b, .range a b ∈ tokens → ∀ x, ∃ y v xs,
    T.expand uninit x (Token.range a b).text = .ok (y, v :: xs) ∧
      xs.length ≤ (b.value - a.value).natAbs

/-! ## Between two bounds -/

theorem mem_between {a b x : Int} : x ∈ between a b ↔ a < x ∧ x < b ∨ b < x ∧ x < a := by
  unfold between
  split
  · rw [List.mem_map]
    constructor
    · rintro ⟨i, inside, rfl⟩
      have bound := List.mem_range.mp inside
      omega
    · intro inside
      exact ⟨(x - a - 1).toNat, List.mem_range.mpr (by omega), by omega⟩
  · rw [List.mem_map]
    constructor
    · rintro ⟨i, inside, rfl⟩
      have bound := List.mem_range.mp inside
      omega
    · intro inside
      exact ⟨(a - x - 1).toNat, List.mem_range.mpr (by omega), by omega⟩

theorem length_between (a b : Int) : (between a b).length = ((b - a).natAbs - 1) := by
  unfold between
  split
  · rw [List.length_map, List.length_range]
    omega
  · rw [List.length_map, List.length_range]
    omega

theorem between_of_le {a b : Int} (near : (b - a).natAbs ≤ 1) : between a b = [] := by
  rw [← List.length_eq_zero_iff, length_between]
  omega

theorem between_up {a b : Int} (far : a + 1 < b) : between a b = (a + 1) :: between (a + 1) b := by
  have length : (b - a - 1).toNat = (b - (a + 1) - 1).toNat + 1 := by omega
  rw [between, between, if_pos (by omega), if_pos far, length, List.range_succ_eq_map, List.map_cons,
    List.map_map, Nat.cast_zero, add_zero]
  congr 1
  apply List.map_congr_left
  intro i _
  simp only [Function.comp_apply, Nat.succ_eq_add_one]
  push_cast
  ring

theorem between_down {a b : Int} (far : b + 1 < a) : between a b = (a - 1) :: between (a - 1) b := by
  have length : (a - b - 1).toNat = (a - 1 - b - 1).toNat + 1 := by omega
  rw [between, between, if_neg (by omega), if_neg (by omega), length, List.range_succ_eq_map,
    List.map_cons, List.map_map, Nat.cast_zero, sub_zero]
  congr 1
  apply List.map_congr_left
  intro i _
  simp only [Function.comp_apply, Nat.succ_eq_add_one]
  push_cast
  ring

/-- Downwards each one is below the last. -/
theorem pairwise_between {a b : Int} (down : b ≤ a) : (between a b).Pairwise fun v w => w < v := by
  rw [between, if_neg (by omega), List.pairwise_map]
  exact List.pairwise_lt_range.imp fun {i j} before => by omega

/-! ## Reading a number -/

theorem isDigit_digitChar (d : Fin 10) : (digitChar d).isDigit = true := by
  revert d
  decide

theorem toNat_digitChar (d : Fin 10) : (digitChar d).toNat = 48 + d.val := by
  revert d
  decide

theorem number_digits (ds : List (Fin 10)) :
    Stream.number (ds.map digitChar) = ds.foldl (fun m d => 10 * m + d.val) 0 := by
  have zero : '0'.toNat = 48 := rfl
  unfold Stream.number
  rw [List.foldl_map]
  simp only [toNat_digitChar, zero, Nat.add_sub_cancel_left]

theorem digits_prefix (ds : List (Fin 10)) {rest : List Char}
    (stop : ∀ c ∈ rest.head?, c.isDigit = false) :
    (ds.map digitChar ++ rest).takeWhile Char.isDigit = ds.map digitChar ∧
      (ds.map digitChar ++ rest).dropWhile Char.isDigit = rest := by
  induction ds with
  | nil =>
    cases rest with
    | nil => exact ⟨rfl, rfl⟩
    | cons c cs =>
      have other := stop c rfl
      simp [other]
  | cons d ds ih =>
    simp [isDigit_digitChar d, ih.1, ih.2]

namespace IntegralType
variable {T : IntegralType} {a b x y e step : Int} {n : Nat} {xs : List Int}

theorem store_of_fits {negative : Bool} {m : Nat} {v : Int}
    (value : v = if negative then -(m : Int) else m) (fits : T.fits v = true) :
    T.store negative m = (v, true) := by
  subst value
  unfold store
  simp only [fits, if_true]

end IntegralType

theorem not_space_digit (d : Fin 10) : Stream.isSpace (digitChar d) = false := by
  revert d
  decide

theorem digit_not_sign (d : Fin 10) : digitChar d ≠ '-' ∧ digitChar d ≠ '+' := by
  revert d
  decide

/-- Reading the digits, behind a sign or not. -/
theorem readInt_digits {T : IntegralType} {c : Char} {cs rest : List Char} {ds : List (Fin 10)}
    {v : Int} (space : Stream.isSpace c = false) (nonempty : ds ≠ [])
    (text : (if c = '-' ∨ c = '+' then cs else c :: cs) = ds.map digitChar ++ rest)
    (stop : ∀ c ∈ rest.head?, c.isDigit = false)
    (value : v = if c = '-' then -((ds.foldl (fun m d => 10 * m + d.val) 0 : Nat) : Int)
      else (ds.foldl (fun m d => 10 * m + d.val) 0 : Nat)) (fits : T.fits v = true) (x : Int) :
    Stream.readNumber T ⟨c :: cs, true⟩ x = (v, ⟨rest, !rest.isEmpty⟩) := by
  obtain ⟨taken, left⟩ := digits_prefix ds stop
  have some : ds.map digitChar ≠ [] := fun none => nonempty (List.map_eq_nil_iff.mp none)
  have stored : T.store (c = '-') (Stream.number (ds.map digitChar)) = (v, true) := by
    rw [number_digits]
    exact IntegralType.store_of_fits (by simpa using value) fits
  have first : (c :: cs).dropWhile Stream.isSpace = c :: cs := by
    rw [List.dropWhile_cons_of_neg (by rw [space]; nofun)]
  unfold Stream.readNumber
  dsimp only
  rw [first]
  dsimp only
  rw [text, taken, left, if_neg some, stored, Bool.true_and]

/-- A number that fits is read, up to what follows it. -/
theorem readInt_numeral {T : IntegralType} (numeric : T.reads ≠ .character) (n : Numeral)
    (fits : T.fits n.value = true) (rest : List Char) (stop : ∀ c ∈ rest.head?, c.isDigit = false)
    (x : Int) :
    Stream.readInt T ⟨n.chars ++ rest, true⟩ x = (n.value, ⟨rest, !rest.isEmpty⟩) := by
  unfold Numeral.chars Stream.readInt
  rw [if_neg numeric]
  cases sign : n.sign with
  | none =>
    obtain ⟨d, ds, digits⟩ := List.exists_cons_of_ne_nil n.nonempty
    obtain ⟨minus, plus⟩ := digit_not_sign d
    have first : Sign.none.chars ++ n.digits.map digitChar ++ rest =
        digitChar d :: (ds.map digitChar ++ rest) := by
      rw [digits]
      rfl
    rw [first]
    apply readInt_digits (not_space_digit d) n.nonempty _ stop _ fits
    · rw [if_neg (by simp [minus, plus]), digits]
      rfl
    · rw [if_neg minus, Numeral.value, sign]
      rfl
  | plus =>
    apply readInt_digits (by decide) n.nonempty _ stop _ fits
    · exact if_pos (.inr rfl)
    · rw [if_neg (by decide), Numeral.value, sign]
      rfl
  | minus =>
    apply readInt_digits (by decide) n.nonempty _ stop _ fits
    · exact if_pos (.inl rfl)
    · rw [if_pos rfl, Numeral.value, sign]
      rfl

theorem head_digits (ds : List (Fin 10)) : ∀ c ∈ (ds.map digitChar).head?, c.isDigit = true := by
  intro c first
  obtain ⟨d, _, rfl⟩ := List.mem_map.mp (List.mem_of_mem_head? first)
  exact isDigit_digitChar d

/-- A number starts with a sign or a digit and goes on with digits; if it is a digit only, it
is not the code of that digit. -/
theorem Numeral.chars_cons (n : Numeral) : ∃ c cs, n.chars = c :: cs ∧ Stream.isSpace c = false ∧
    n.code = c.toNat ∧ 43 ≤ c.toNat ∧ c.toNat ≤ 57 ∧ (∀ d ∈ cs.head?, d.isDigit = true) ∧
    (cs = [] → 0 ≤ n.value ∧ n.code = n.value + 48) := by
  obtain ⟨d, ds, digits⟩ := List.exists_cons_of_ne_nil n.nonempty
  have code : ∀ c cs, n.chars = c :: cs → n.code = c.toNat := by
    intro c cs chars
    rw [Numeral.code, chars, List.headD_cons]
  have digit := toNat_digitChar d
  cases sign : n.sign with
  | none =>
    have chars : n.chars = digitChar d :: ds.map digitChar := by
      rw [Numeral.chars, sign, digits]
      rfl
    refine ⟨_, _, chars, not_space_digit d, code _ _ chars, by omega, by omega, head_digits ds, fun alone => ?_⟩
    have alone := List.map_eq_nil_iff.mp alone
    rw [code _ _ chars, Numeral.value, Numeral.magnitude, sign, digits, alone, digit]
    simp only [List.foldl_cons, List.foldl_nil, reduceCtorEq, if_false]
    exact ⟨by omega, by omega⟩
  | plus =>
    have chars : n.chars = '+' :: n.digits.map digitChar := by
      rw [Numeral.chars, sign]
      rfl
    refine ⟨_, _, chars, by decide, code _ _ chars, by decide, by decide, head_digits _, fun alone => ?_⟩
    exact absurd (List.map_eq_nil_iff.mp alone) n.nonempty
  | minus =>
    have chars : n.chars = '-' :: n.digits.map digitChar := by
      rw [Numeral.chars, sign]
      rfl
    refine ⟨_, _, chars, by decide, code _ _ chars, by decide, by decide, head_digits _, fun alone => ?_⟩
    exact absurd (List.map_eq_nil_iff.mp alone) n.nonempty

theorem le_foldl_digits (ds : List (Fin 10)) (m : Nat) :
    m ≤ ds.foldl (fun m d => 10 * m + d.val) m := by
  induction ds generalizing m with
  | nil => exact le_rfl
  | cons d ds ih => exact le_trans (by omega) (ih (10 * m + d.val))

/-- The first digit, if there is no sign. -/
theorem Numeral.code_le (n : Numeral) (digit : 48 ≤ n.code) : n.code ≤ n.value + 48 := by
  unfold Numeral.code Numeral.chars at digit ⊢
  unfold Numeral.value Numeral.magnitude
  cases sign : n.sign with
  | none =>
    obtain ⟨d, ds, digits⟩ := List.exists_cons_of_ne_nil n.nonempty
    have bound := le_foldl_digits ds d.val
    have first := toNat_digitChar d
    rw [digits]
    simp only [Sign.chars, List.map_cons, List.nil_append, List.headD_cons, List.foldl_cons, mul_zero,
      zero_add, reduceCtorEq, if_false, first]
    omega
  | plus =>
    rw [sign] at digit
    simp [Sign.chars] at digit
  | minus =>
    rw [sign] at digit
    simp [Sign.chars] at digit

/-! ## One token -/

namespace IntegralType
variable {T : IntegralType} {a b x y e step u : Int} {n : Nat} {xs : List Int}

theorem expand_one (numeric : T.reads ≠ .character) {t : Numeral} (fits : T.fits t.value = true) :
    T.expand u x (Token.one t).text = .ok (t.value, [t.value]) := by
  have reads := readInt_numeral numeric t fits [] nofun x
  rw [List.append_nil] at reads
  unfold expand
  rw [Token.text, String.toList_ofList, reads]
  rfl

theorem expand_range (numeric : T.reads ≠ .character) {s t : Numeral}
    (fits : T.fits s.value = true) (fits' : T.fits t.value = true) :
    T.expand u x (Token.range s t).text =
      (T.range s.value t.value).map fun r => (r.1, s.value :: r.2) := by
  have reads := readInt_numeral numeric s fits ('.' :: '.' :: t.chars)
    (fun c first => by
      obtain rfl := Option.some.inj first
      decide) x
  have reads' := readInt_numeral numeric t fits' [] nofun u
  rw [List.append_nil] at reads'
  have dots : ∀ cs d, Stream.readChar ⟨'.' :: cs, true⟩ d = ('.', ⟨cs, true⟩) := by
    intro cs d
    simp [Stream.readChar, Stream.isSpace]
  unfold expand
  rw [Token.text, String.toList_ofList, reads]
  simp only [List.isEmpty_cons, Bool.not_false, dots, and_self, if_true, reads']

/-! ## Steps of the loop -/

theorem bits_pos (T : IntegralType) : 0 < T.bits := by
  have has := T.has
  cases reads : T.reads <;> rw [reads] at has <;> unfold Extraction.Has at has <;> omega

theorem eight_le_bits (wide : T.reads ≠ .flag) : 8 ≤ T.bits := by
  have has := T.has
  cases reads : T.reads with
  | number =>
    rw [reads] at has
    unfold Extraction.Has at has
    omega
  | character =>
    rw [reads] at has
    exact Nat.le_of_eq has.1.symm
  | flag => exact absurd reads wide

theorem max_eq (T : IntegralType) : T.max = T.min + 2 ^ T.bits - 1 := by
  unfold max min
  have double : (2 : Int) ^ T.bits = 2 * 2 ^ (T.bits - 1) := by
    rw [← pow_succ', Nat.sub_add_cancel T.bits_pos]
  split <;> omega

theorem two_lt (wide : T.reads ≠ .flag) : (2 : Int) < 2 ^ (T.bits - 1) := by
  have wide := eight_le_bits wide
  calc (2 : Int) < 2 ^ 2 := by decide
    _ ≤ 2 ^ (T.bits - 1) := by
      apply pow_le_pow_right₀ (by decide)
      omega

theorem fits_iff : T.fits x = true ↔ T.min ≤ x ∧ x ≤ T.max := by
  unfold fits
  exact decide_eq_true_iff

/-- Converting goes round by `2 ^ bits`. -/
theorem convert_eq (wide : T.reads ≠ .flag) (fits : T.fits y = true) (k : Int) :
    T.convert (y + k * 2 ^ T.bits) = y := by
  have limits := fits_iff.mp fits
  have top := T.max_eq
  have inside : (y - T.min) % 2 ^ T.bits = y - T.min := Int.emod_eq_of_lt (by omega) (by omega)
  have shift : y + k * 2 ^ T.bits - T.min = y - T.min + k * 2 ^ T.bits := by ring
  rw [convert, if_neg wide, shift, Int.add_mul_emod_self_right, inside]
  omega

theorem convert_of_fits (wide : T.reads ≠ .flag) (fits : T.fits y = true) : T.convert y = y := by
  simpa using convert_eq wide fits 0

theorem convert_one (wide : T.reads ≠ .flag) : T.convert 1 = 1 := by
  apply convert_of_fits wide
  rw [fits_iff, max, min]
  have large := two_lt wide
  have larger : (2 : Int) ^ (T.bits - 1) ≤ 2 ^ T.bits := pow_le_pow_right₀ (by decide) (by omega)
  split <;> omega

/-- The step down is `-1`, or the largest value of an unsigned type. -/
theorem convert_neg_one (wide : T.reads ≠ .flag) :
    T.convert (-1) = if T.signed then -1 else 2 ^ T.bits - 1 := by
  have large := two_lt wide
  have larger : (2 : Int) ^ (T.bits - 1) ≤ 2 ^ T.bits := pow_le_pow_right₀ (by decide) (by omega)
  cases sign : T.signed with
  | true =>
    apply convert_of_fits wide
    rw [fits_iff, max, min, sign]
    simp only [if_true]
    omega
  | false =>
    have top : T.fits (2 ^ T.bits - 1) = true := by
      rw [fits_iff, max, min, sign]
      simp only [Bool.false_eq_true, if_false]
      omega
    have round := convert_eq wide top (-1)
    have same : (2 : Int) ^ T.bits - 1 + -1 * 2 ^ T.bits = -1 := by ring
    rw [same] at round
    simpa using round

theorem add_up (wide : T.reads ≠ .flag) (fits : T.fits (x + 1) = true) :
    T.add x (T.convert 1) = .ok (x + 1) := by
  rw [convert_one wide, add, if_pos fits]

theorem add_down (wide : T.reads ≠ .flag) (fits : T.fits x = true) (above : T.min < x) :
    T.add x (T.convert (-1)) = .ok (x - 1) := by
  have limits := fits_iff.mp fits
  have inside : T.fits (x - 1) = true := fits_iff.mpr (by omega)
  rw [convert_neg_one wide, add]
  cases sign : T.signed with
  | true =>
    have same : x + -1 = x - 1 := by omega
    rw [if_pos rfl, same, if_pos inside]
  | false =>
    have top := T.max_eq
    have bottom : T.min = 0 := by rw [min, sign]; rfl
    have outside : ¬ T.fits (x + (2 ^ T.bits - 1)) = true := by
      rw [fits_iff]
      omega
    have round := convert_eq wide inside 1
    have same : x - 1 + 1 * 2 ^ T.bits = x + (2 ^ T.bits - 1) := by ring
    rw [same] at round
    simp only [Bool.false_eq_true, if_false]
    rw [if_neg outside, if_pos (by simp [wraps, sign]), round]

/-- Below the least value. -/
theorem add_min (wide : T.reads ≠ .flag) : T.add T.min (T.convert (-1)) =
    if T.wraps then .ok T.max else .error .signedOverflow := by
  have top := T.max_eq
  have large := two_lt wide
  have larger : (2 : Int) ^ (T.bits - 1) ≤ 2 ^ T.bits := pow_le_pow_right₀ (by decide) (by omega)
  have inside : T.fits T.max = true := fits_iff.mpr (by omega)
  rw [convert_neg_one wide, add]
  cases sign : T.signed with
  | true =>
    have outside : ¬ T.fits (T.min + -1) = true := by
      rw [fits_iff]
      omega
    have round := convert_eq wide inside (-1)
    have same : T.max + -1 * 2 ^ T.bits = T.min + -1 := by rw [top]; ring
    rw [same] at round
    rw [if_pos rfl, if_neg outside, round]
  | false =>
    have same : T.min + (2 ^ T.bits - 1) = T.max := by omega
    simp only [Bool.false_eq_true, if_false]
    rw [same, if_pos inside, if_pos (by simp [wraps, sign])]

/-! ## The loop -/

theorem whileBelow_stops (stops : ¬ x < e) : T.whileBelow e step n x = .ok (x, []) := by
  cases n with
  | zero => rw [whileBelow, if_neg stops]
  | succ n => rw [whileBelow, if_neg stops]

theorem whileBelow_up (wide : T.reads ≠ .flag) (low : T.min ≤ x) (fits : T.fits e = true) (rounds : (e - x).toNat ≤ n)
    (le : x ≤ e) : T.whileBelow e (T.convert 1) n x =
      .ok (e, (List.range (e - x).toNat).map fun i : Nat => x + i) := by
  induction n generalizing x with
  | zero =>
    obtain rfl : x = e := by omega
    rw [whileBelow_stops (lt_irrefl x)]
    simp
  | succ n ih =>
    rcases lt_or_eq_of_le le with before | rfl
    · have limits := fits_iff.mp fits
      have next := add_up wide (x := x) (fits_iff.mpr (by omega))
      have length : (e - x).toNat = (e - (x + 1)).toNat + 1 := by omega
      rw [whileBelow, if_pos before, next, Except.bind, ih (by omega) (by omega) (by omega), length,
        List.range_succ_eq_map, List.map_cons, List.map_map]
      simp only [Except.map, Nat.cast_zero, add_zero]
      congr 3
      apply List.map_congr_left
      intro i _
      simp only [Function.comp_apply, Nat.succ_eq_add_one]
      push_cast
      ring
    · rw [whileBelow_stops (lt_irrefl x)]
      simp

/-- Down from below `end` the loop runs to the least value, and past it if the type
goes round. -/
theorem whileBelow_down (wide : T.reads ≠ .flag) (fits : T.fits x = true) (fits' : T.fits e = true) (below : x < e)
    (rounds : (x - T.min).toNat < n) : (T.wraps = false ∧
      T.whileBelow e (T.convert (-1)) n x = .error .signedOverflow) ∨
      T.whileBelow e (T.convert (-1)) n x = .ok (T.max, between (x + 1) (T.min - 1)) := by
  induction n generalizing x with
  | zero => omega
  | succ n ih =>
    have limits := fits_iff.mp fits
    have limits' := fits_iff.mp fits'
    have first := between_down (a := x + 1) (b := T.min - 1) (by omega)
    rw [add_sub_cancel_right] at first
    rcases lt_or_eq_of_le limits.1 with above | bottom
    · rw [whileBelow, if_pos below, add_down wide fits above, Except.bind]
      have inside : T.fits (x - 1) = true := fits_iff.mpr (by omega)
      rcases ih inside (by omega) (by omega) with ⟨strict, fails⟩ | runs
      · exact .inl ⟨strict, by rw [fails]; rfl⟩
      · rw [sub_add_cancel] at runs
        exact .inr (by rw [runs, first]; rfl)
    · rw [whileBelow, if_pos below, ← bottom, add_min wide]
      cases wrap : T.wraps with
      | false => exact .inl ⟨rfl, rfl⟩
      | true =>
        right
        rw [bottom] at first
        rw [if_pos rfl, Except.bind, whileBelow_stops (by omega), bottom, first, between_of_le (by omega)]
        rfl

/-! ## Ranges of two bounds -/

theorem rounds_pow (fits : T.fits x = true) (fits' : T.fits y = true) :
    (y - x).toNat < 2 ^ T.bits := by
  have limits := fits_iff.mp fits
  have limits' := fits_iff.mp fits'
  have top := T.max_eq
  have cast : ((2 ^ T.bits : Nat) : Int) = 2 ^ T.bits := by push_cast; rfl
  omega

theorem range_up (wide : T.reads ≠ .flag) (fits : T.fits a = true) (fits' : T.fits b = true) (up : a < b) :
    T.range a b = .ok (b, between a b) := by
  have limits := fits_iff.mp fits
  have limits' := fits_iff.mp fits'
  have rounds := rounds_pow fits fits'
  have next := add_up wide (x := a) (fits_iff.mpr (by omega))
  have length : (b - (a + 1)).toNat = (b - a - 1).toNat := by omega
  unfold range
  rw [if_pos up]
  dsimp only
  rw [next, Except.bind, whileBelow_up wide (by omega) fits' (by omega) (by omega), length,
    between, if_pos up]

theorem range_down (wide : T.reads ≠ .flag) (fits : T.fits a = true) (fits' : T.fits b = true) (down : b < a) :
    T.range a b = .ok (a - 1, []) := by
  have limits' := fits_iff.mp fits'
  unfold range
  rw [if_neg (by omega)]
  dsimp only
  rw [add_down wide fits (by omega), Except.bind, whileBelow_stops (by omega)]

theorem range_least (wide : T.reads ≠ .flag) : T.range T.min T.min =
    if T.wraps then .ok (T.max, []) else .error .signedOverflow := by
  have top := T.max_eq
  have large : (0 : Int) < 2 ^ T.bits := Int.pow_pos (by decide)
  unfold range
  rw [if_neg (lt_irrefl _)]
  dsimp only
  rw [add_min wide]
  cases T.wraps with
  | false => rfl
  | true =>
    rw [if_pos rfl, Except.bind, whileBelow_stops (by omega)]
    rfl

theorem range_equal (wide : T.reads ≠ .flag) (fits : T.fits a = true) (above : T.min < a) :
    (T.wraps = false ∧ T.range a a = .error .signedOverflow) ∨
      T.range a a = .ok (T.max, between a (T.min - 1)) := by
  have limits := fits_iff.mp fits
  have inside : T.fits (a - 1) = true := fits_iff.mpr (by omega)
  have least : T.fits T.min = true := fits_iff.mpr (by omega)
  have rounds := rounds_pow least inside
  unfold range
  rw [if_neg (lt_irrefl _)]
  dsimp only
  rw [add_down wide fits above, Except.bind]
  have runs := whileBelow_down wide inside fits (by omega) rounds
  rwa [sub_add_cancel] at runs

end IntegralType

/-! ## Flags and characters -/

namespace IntegralType
variable {T : IntegralType} {a b x y u : Int} {out : List Int}

theorem flag_limits (flag : T.reads = .flag) : T.min = 0 ∧ T.max = 1 ∧ T.wraps = true := by
  have has := T.has
  rw [flag] at has
  obtain ⟨bits, signed, promoted⟩ := has
  refine ⟨by rw [min, signed]; rfl, ?_, by rw [wraps, signed]; rfl⟩
  rw [max, signed, bits]
  rfl

/-- The first step of a `bool` reaches 1, and the loop has nothing to do. -/
theorem range_flag (flag : T.reads = .flag) (fits : T.fits a = true) (fits' : T.fits b = true) :
    T.range a b = .ok (1, []) := by
  obtain ⟨low, high, wraps⟩ := flag_limits flag
  have limits := fits_iff.mp fits
  have limits' := fits_iff.mp fits'
  have step : T.convert (if b > a then 1 else -1) = 1 := by
    rw [convert, if_pos flag]
    split <;> rfl
  have next : T.add a 1 = .ok 1 := by
    rw [add]
    split
    · rename_i inside
      have limits := fits_iff.mp inside
      rw [show a + 1 = 1 by omega]
    · rw [convert, if_pos flag, if_neg (by omega)]
  unfold range
  rw [step]
  dsimp only
  rw [next, Except.bind, whileBelow_stops (by omega)]

/-- A digit behind it is taken for the first dot, which it is not. -/
theorem expand_alone (character : T.reads = .character) {value : String} {c : Char} {cs : List Char}
    (text : value.toList = c :: cs) (space : Stream.isSpace c = false)
    (digit : ∀ d ∈ cs.head?, d.isDigit = true) :
    T.expand u x value = .ok (T.convert c.toNat, [T.convert c.toNat]) := by
  have reads : Stream.readInt T ⟨c :: cs, true⟩ x = (T.convert c.toNat, ⟨cs, true⟩) := by
    simp [Stream.readInt, character, Stream.readCode, space]
  have undotted : (Stream.readChar ⟨cs, true⟩ '\x00').1 ≠ '.' := by
    cases cs with
    | nil => decide
    | cons d ds =>
      have isDigit := digit d rfl
      have solid : Stream.isSpace d = false := by
        cases blank : Stream.isSpace d with
        | false => rfl
        | true =>
          simp only [Stream.isSpace, List.mem_cons, List.not_mem_nil, or_false,
            decide_eq_true_eq] at blank
          rcases blank with rfl | rfl | rfl | rfl | rfl | rfl <;> revert isDigit <;> decide
      have first : (Stream.readChar ⟨d :: ds, true⟩ '\x00').1 = d := by
        simp [Stream.readChar, solid]
      rw [first]
      rintro rfl
      revert isDigit
      decide
  unfold expand
  rw [text, reads]
  dsimp only
  rw [if_neg fun dots => undotted dots.1]

/-- Behind a character the dots are read, and the character behind them is the end. -/
theorem expand_dotted (character : T.reads = .character) {value : String} {c d : Char} {cs : List Char}
    (text : value.toList = c :: '.' :: '.' :: d :: cs) (space : Stream.isSpace c = false)
    (space' : Stream.isSpace d = false) : T.expand u x value =
      (T.range (T.convert c.toNat) (T.convert d.toNat)).map fun r => (r.1, T.convert c.toNat :: r.2) := by
  have reads : ∀ c cs x, Stream.isSpace c = false →
      Stream.readInt T ⟨c :: cs, true⟩ x = (T.convert c.toNat, ⟨cs, true⟩) := by
    intro c cs x space
    simp [Stream.readInt, character, Stream.readCode, space]
  have dots : ∀ cs d, Stream.readChar ⟨'.' :: cs, true⟩ d = ('.', ⟨cs, true⟩) := by
    intro cs d
    simp [Stream.readChar, Stream.isSpace]
  unfold expand
  rw [text, reads _ _ _ space]
  simp only [dots, and_self, if_true, reads _ _ _ space']

theorem fits_code (character : T.reads = .character) (low : 43 ≤ x) (high : x ≤ 57) :
    T.fits x = true := by
  have bits : T.bits = 8 := by
    have has := T.has
    rw [character] at has
    exact has.1
  rw [fits_iff, min, max, bits]
  split <;> omega

theorem convert_code (character : T.reads = .character) {c : Char} (low : 43 ≤ c.toNat)
    (high : c.toNat ≤ 57) : T.convert c.toNat = c.toNat :=
  convert_of_fits (by rw [character]; nofun) (fits_code character (by omega) (by omega))

theorem min_nonpos (T : IntegralType) : T.min ≤ 0 := by
  have power : (0 : Int) < 2 ^ (T.bits - 1) := Int.pow_pos (by decide)
  unfold min
  split <;> omega

end IntegralType

namespace Token
variable {T : IntegralType} {t : Token} {u x : Int}

theorem code_bounds (t : Token) : 43 ≤ t.first.code ∧ t.first.code ≤ 57 := by
  obtain ⟨c, cs, _, _, code, low, high, _⟩ := t.first.chars_cons
  omega

/-- A character type makes of a token the code of its first character, and of a
number with more characters nothing else; a range that starts with one digit is taken for
one of codes. -/
theorem expand_character (character : T.reads = .character) (t : Token) (u x : Int) :
    T.expand u x t.text = .ok (t.first.code, [t.first.code]) ∨
    ∃ a b, t = .range a b ∧ 0 ≤ a.value ∧ a.code = a.value + 48 ∧
      T.expand u x t.text = (T.range a.code b.code).map fun r => (r.1, a.code :: r.2) := by
  obtain ⟨c, cs, chars, space, code, low, high, digits, alone⟩ := t.first.chars_cons
  have same := IntegralType.convert_code character low high
  cases t with
  | one a =>
    left
    have text : (one a).text.toList = c :: cs := by
      rw [Token.text, String.toList_ofList]
      exact chars
    rw [code, ← same]
    exact IntegralType.expand_alone character text space digits
  | range a b =>
    have chars : a.chars = c :: cs := chars
    have text : (range a b).text.toList = c :: (cs ++ '.' :: '.' :: b.chars) := by
      rw [Token.text, String.toList_ofList, chars]
      rfl
    cases cs with
    | nil =>
      right
      obtain ⟨c', cs', chars', space', code', low', high', _⟩ := b.chars_cons
      have same' := IntegralType.convert_code character low' high'
      have code : a.code = c.toNat := code
      rw [chars'] at text
      refine ⟨a, b, rfl, (alone rfl).1, (alone rfl).2, ?_⟩
      rw [code, code', ← same, ← same']
      exact IntegralType.expand_dotted character text space space'
    | cons d ds =>
      left
      rw [code, ← same]
      exact IntegralType.expand_alone character text space digits

/-- What a token gives, against what it stands for. -/
structure Falls (T : IntegralType) (t : Token) (out : List Int) : Prop where
  least : t.values.count T.min ≤ out.count T.min
  short : out.count T.min = t.values.count T.min → out.length ≤ t.values.length
  fails : out.count T.min = t.values.count T.min → out.length = t.values.length → t.Expands T

/-- A token whose bounds are good gives what it stands for. -/
theorem Expands.expand (fits : t.Representable T) (good : t.Expands T) (u x : Int) :
    ∃ y, T.expand u x t.text = .ok (y, t.values) := by
  cases reads : T.reads with
  | number =>
    have wide : T.reads ≠ .flag := by rw [reads]; nofun
    have numeric : T.reads ≠ .character := by rw [reads]; nofun
    cases t with
    | one a => exact ⟨a.value, IntegralType.expand_one numeric fits⟩
    | range a b =>
      rw [IntegralType.expand_range numeric fits.1 fits.2]
      rcases good.1 reads with up | next | ⟨equal, least, wraps⟩
      · exact ⟨b.value, by rw [IntegralType.range_up wide fits.1 fits.2 up]; rfl⟩
      · refine ⟨a.value - 1, ?_⟩
        rw [IntegralType.range_down wide fits.1 fits.2 (by omega), values, between_of_le (by omega)]
        rfl
      · refine ⟨T.max, ?_⟩
        rw [values, between_of_le (by omega), ← equal, least, IntegralType.range_least wide,
          if_pos wraps]
        rfl
  | character =>
    rcases expand_character reads t u x with once | ⟨a, b, rfl, _, digit, _⟩
    · cases t with
      | one a =>
        have code : a.code = a.value := good reads
        refine ⟨a.value, ?_⟩
        simpa [values, first, code] using once
      | range a b =>
        obtain ⟨code, near⟩ := good.2 reads
        refine ⟨a.value, ?_⟩
        rw [values, between_of_le near]
        simpa [first, code] using once
    · have code := (good.2 reads).1
      omega
  | flag =>
    have numeric : T.reads ≠ .character := by rw [reads]; nofun
    cases t with
    | one a => exact ⟨a.value, IntegralType.expand_one numeric fits⟩
    | range a b =>
      obtain ⟨low, high, _⟩ := IntegralType.flag_limits reads
      have limits := IntegralType.fits_iff.mp fits.1
      have limits' := IntegralType.fits_iff.mp fits.2
      refine ⟨1, ?_⟩
      rw [IntegralType.expand_range numeric fits.1 fits.2,
        IntegralType.range_flag reads fits.1 fits.2, values, between_of_le (by omega)]
      rfl

/-- Otherwise it gives too few integers, or the least one of the type once more. -/
theorem falls (numeric : T.reads ≠ .character) (fits : t.Representable T) {y : Int} {out : List Int}
    (gives : T.expand u x t.text = .ok (y, out)) : Falls T t out := by
  by_cases good : t.Expands T
  · obtain ⟨z, same⟩ := good.expand fits u x
    obtain ⟨rfl, rfl⟩ := Prod.mk.inj (Except.ok.inj (same.symm.trans gives))
    exact ⟨Nat.le_refl _, fun _ => Nat.le_refl _, fun _ _ => good⟩
  · cases t with
    | one a => exact absurd (fun character => absurd character numeric) good
    | range a b =>
      have limits := IntegralType.fits_iff.mp fits.1
      have limits' := IntegralType.fits_iff.mp fits.2
      rw [IntegralType.expand_range numeric fits.1 fits.2] at gives
      have bounds : T.reads = .number ∧ ¬ (a.value < b.value ∨ a.value = b.value + 1 ∨
          (a.value = b.value ∧ a.value = T.min ∧ T.wraps = true)) := by
        by_contra fine
        refine good ⟨fun number => ?_, fun character => absurd character numeric⟩
        by_contra bad
        exact fine ⟨number, bad⟩
      obtain ⟨number, bounds⟩ := bounds
      have wide : T.reads ≠ .flag := by rw [number]; nofun
      rcases lt_trichotomy a.value b.value with up | equal | down
      · exact absurd (.inl up) bounds
      · have only : values (range a b) = [a.value] := by
          rw [values, between_of_le (by omega)]
        by_cases above : T.min < a.value
        · have absent : (values (range a b)).count T.min = 0 := by
            rw [only, List.count_eq_zero, List.mem_singleton]
            omega
          rw [← equal] at gives
          rcases IntegralType.range_equal wide fits.1 above with ⟨_, fails⟩ | runs
          · rw [fails] at gives
            cases gives
          · rw [runs] at gives
            have gives' : Except.ok (T.max, a.value :: between a.value (T.min - 1)) = .ok (y, out) :=
              gives
            obtain ⟨rfl, rfl⟩ := Prod.mk.inj (Except.ok.inj gives')
            have least : T.min ∈ between a.value (T.min - 1) := mem_between.mpr (by omega)
            have once : 0 < (a.value :: between a.value (T.min - 1)).count T.min :=
              List.count_pos_iff.mpr (List.mem_cons_of_mem _ least)
            exact ⟨by omega, fun same => by omega, fun same => by omega⟩
        · have least : a.value = T.min := by omega
          have strict : ¬ T.wraps = true := fun wraps => bounds (.inr (.inr ⟨equal, least, wraps⟩))
          rw [← equal, least, IntegralType.range_least wide, if_neg strict] at gives
          cases gives
      · have gap : b.value + 1 < a.value := by omega
        rw [IntegralType.range_down wide fits.1 fits.2 down] at gives
        obtain ⟨rfl, rfl⟩ := Prod.mk.inj (Except.ok.inj gives)
        have long : (values (range a b)).length = (b.value - a.value).natAbs - 1 + 1 := by
          rw [values, List.length_cons, length_between]
        have absent : (values (range a b)).count T.min = 0 := by
          rw [List.count_eq_zero, values, List.mem_cons]
          rintro (same | inside)
          · omega
          · have between := mem_between.mp inside
            omega
        refine ⟨by omega, fun _ => ?_, fun _ length => ?_⟩
        · rw [long, List.length_singleton]
          omega
        · rw [long, List.length_singleton] at length
          omega

/-- From a number below all codes it goes down, or on with the code of a token. -/
def Steps (v w : Int) : Prop := 43 ≤ v ∨ 43 ≤ w ∨ w < v

/-- A token of a character type gives at most as many numbers as it stands for, unless its end starts
with the one digit it has. -/
theorem character_cases (character : T.reads = .character) (t : Token) (u x : Int) : ∃ y xs,
    T.expand u x t.text = .ok (y, t.first.code :: xs) ∧ (t.first.code :: xs).IsChain Steps ∧
      (xs.length < t.values.length ∨ ∃ a b, t = .range a b ∧ 0 ≤ a.value ∧ a.value ≤ 9 ∧
        a.value ≤ b.value ∧ 48 ≤ xs.length) := by
  rcases expand_character character t u x with alone | ⟨a, b, rfl, natural, digit, dotted⟩
  · refine ⟨_, [], alone, .singleton _, .inl ?_⟩
    cases t <;> simp [values]
  · have wide : T.reads ≠ .flag := by rw [character]; nofun
    have wraps : T.wraps = true := by
      have has := T.has
      rw [character] at has
      simp [IntegralType.wraps, has.2]
    have low : T.min ≤ 0 := T.min_nonpos
    have code : 43 ≤ a.code ∧ a.code ≤ 57 := (range a b).code_bounds
    have code' : 43 ≤ b.code ∧ b.code ≤ 57 := (one b).code_bounds
    have fits := IntegralType.fits_code character code.1 code.2
    have fits' := IntegralType.fits_code character code'.1 code'.2
    have chain : ∀ xs : List Int, xs.Pairwise Steps → (a.code :: xs).IsChain Steps := fun xs steps =>
      (List.pairwise_cons.mpr ⟨fun w _ => .inl code.1, steps⟩).isChain
    rw [dotted]
    rcases lt_trichotomy a.code b.code with up | equal | down
    · have runs := IntegralType.range_up wide fits fits' up
      refine ⟨b.code, between a.code b.code, by rw [runs]; rfl, ?_, ?_⟩
      · refine chain _ (List.pairwise_of_forall_mem_list fun v member w _ => .inl ?_)
        have inside := mem_between.mp member
        omega
      · left
        have bound := b.code_le (by omega)
        rw [values, List.length_cons, length_between, length_between]
        omega
    · rw [← equal]
      have runs := (IntegralType.range_equal wide fits (by omega)).resolve_left fun strict => by
        simp [wraps] at strict
      refine ⟨T.max, between a.code (T.min - 1), by rw [runs]; rfl, ?_, .inr ⟨a, b, rfl, natural, ?_⟩⟩
      · exact chain _ ((pairwise_between (by omega)).imp fun below => .inr (.inr below))
      · have bound := b.code_le (by omega)
        rw [length_between]
        omega
    · have runs := IntegralType.range_down wide fits fits' down
      refine ⟨a.code - 1, [], by rw [runs]; rfl, .singleton _, ?_⟩
      left
      simp [values]

/-- Within the rounds that are allowed it never gives more than it stands for: what the token stands
for would go up from its digit. -/
theorem short_of_rounds (character : T.reads = .character) {y : Int} {out : List Int}
    (gives : T.expand u x t.text = .ok (y, out)) (steps : t.values.IsChain Steps)
    (rounds : ∀ a b, t = .range a b → out.length ≤ (b.value - a.value).natAbs + 1) :
    out.length ≤ t.values.length := by
  obtain ⟨y', xs, same, _, shorter | ⟨a, b, rfl, natural, digit, le, long⟩⟩ :=
    character_cases character t u x
  · rw [gives] at same
    obtain ⟨rfl, rfl⟩ := Prod.mk.inj (Except.ok.inj same)
    exact shorter
  · rw [gives] at same
    obtain ⟨rfl, rfl⟩ := Prod.mk.inj (Except.ok.inj same)
    have bound := rounds a b rfl
    rw [List.length_cons] at bound
    rw [values, between_up (by omega), List.isChain_cons_cons] at steps
    rcases steps.1 with high | high | down <;> omega

/-- A token that gives what it stands for is a good one. -/
theorem expands_of_gives (fits : t.Representable T) {y : Int}
    (gives : T.expand u x t.text = .ok (y, t.values)) : t.Expands T := by
  by_cases character : T.reads = .character
  · rcases expand_character character t u x with alone | ⟨a, b, rfl, _, digit, dotted⟩
    · have same := (Prod.mk.inj (Except.ok.inj (alone.symm.trans gives))).2
      cases t with
      | one a => exact fun _ => (List.cons.inj same).1
      | range a b =>
        have short := congrArg List.length same
        simp only [values, List.length_cons, List.length_nil, length_between] at short
        refine ⟨fun number => ?_, fun _ => ⟨(List.cons.inj same).1, ?_⟩⟩
        · rw [character] at number
          cases number
        · omega
    · rw [gives] at dotted
      cases run : T.range a.code b.code with
      | error fault =>
        rw [run] at dotted
        cases dotted
      | ok r =>
        rw [run] at dotted
        have code := (List.cons.inj (Prod.mk.inj (Except.ok.inj dotted)).2).1
        omega
  · exact (falls character fits gives).fails rfl rfl

end Token

namespace IntegralType
variable {T : IntegralType} {tokens : List Token} {u x : Int}

theorem expandAll_of_expands (fits : ∀ t ∈ tokens, t.Representable T)
    (good : ∀ t ∈ tokens, t.Expands T) (u x : Int) :
    T.expandAll u x (tokens.map Token.text) = .ok (tokens.flatMap Token.values) := by
  induction tokens generalizing x with
  | nil => rfl
  | cons t ts ih =>
    obtain ⟨fits, fits'⟩ := List.forall_mem_cons.mp fits
    obtain ⟨good, good'⟩ := List.forall_mem_cons.mp good
    obtain ⟨y, gives⟩ := good.expand fits u x
    rw [List.map_cons, expandAll, gives, Except.bind, ih fits' good' y, List.flatMap_cons]
    rfl

/-- Where no token gives more than it stands for, each gives as much in a list that is right. -/
theorem expandAll_aligned (short : ∀ t ∈ tokens, ∀ x y out, T.expand u x t.text = .ok (y, out) →
      out.length ≤ t.values.length) {out : List Int}
    (gives : T.expandAll u x (tokens.map Token.text) = .ok out) :
    out.length ≤ (tokens.flatMap Token.values).length ∧ (out = tokens.flatMap Token.values →
      ∀ t ∈ tokens, ∃ x y, T.expand u x t.text = .ok (y, t.values)) := by
  induction tokens generalizing x out with
  | nil =>
    obtain rfl := Except.ok.inj gives
    exact ⟨Nat.le_refl _, fun _ => nofun⟩
  | cons t ts ih =>
    obtain ⟨here, later⟩ := List.forall_mem_cons.mp short
    rw [List.map_cons, expandAll] at gives
    cases first : T.expand u x t.text with
    | error fault => simp [first, Except.bind] at gives
    | ok r =>
      rw [first, Except.bind] at gives
      cases rest : T.expandAll u r.1 (ts.map Token.text) with
      | error fault => simp [rest, Except.map] at gives
      | ok out' =>
        rw [rest] at gives
        obtain rfl := Except.ok.inj gives
        have bound := here x r.1 r.2 first
        obtain ⟨bound', aligned⟩ := ih later rest
        rw [List.flatMap_cons]
        refine ⟨by simpa using Nat.add_le_add bound bound', fun same => ?_⟩
        have length := congrArg List.length same
        rw [List.length_append, List.length_append] at length
        obtain ⟨own, others⟩ := List.append_inj same (by omega)
        exact List.forall_mem_cons.mpr ⟨⟨x, r.1, by rw [first, ← own]⟩, aligned others⟩

/-- In what a character type gives, a number below the codes is only followed by a lower one
or by the code of the next token. -/
theorem expandAll_steps (character : T.reads = .character) {out : List Int}
    (gives : T.expandAll u x (tokens.map Token.text) = .ok out) :
    out.IsChain Token.Steps ∧ ∀ v ∈ out.head?, 43 ≤ v := by
  induction tokens generalizing x out with
  | nil =>
    obtain rfl := Except.ok.inj gives
    exact ⟨.nil, nofun⟩
  | cons t ts ih =>
    obtain ⟨y, xs, first, steps, _⟩ := Token.character_cases character t u x
    rw [List.map_cons, expandAll, first, Except.bind] at gives
    cases rest : T.expandAll u y (ts.map Token.text) with
    | error fault => simp [rest, Except.map] at gives
    | ok out' =>
      rw [rest] at gives
      obtain rfl := Except.ok.inj gives
      obtain ⟨steps', head⟩ := ih rest
      refine ⟨steps.append steps' fun v _ w next => .inr (.inl (head w next)), fun v first => ?_⟩
      obtain rfl := Option.some.inj first
      exact t.code_bounds.1

/-- A list can only fall short of what its tokens stand for, or hold the least
integer too often. -/
theorem expandAll_falls (numeric : T.reads ≠ .character) (fits : ∀ t ∈ tokens, t.Representable T) {out : List Int}
    (gives : T.expandAll u x (tokens.map Token.text) = .ok out) :
    (tokens.flatMap Token.values).count T.min ≤ out.count T.min ∧
      (out.count T.min = (tokens.flatMap Token.values).count T.min →
        out.length ≤ (tokens.flatMap Token.values).length ∧
        (out.length = (tokens.flatMap Token.values).length → ∀ t ∈ tokens, t.Expands T)) := by
  induction tokens generalizing x out with
  | nil =>
    obtain rfl := Except.ok.inj gives
    exact ⟨Nat.le_refl _, fun _ => ⟨Nat.le_refl _, fun _ => nofun⟩⟩
  | cons t ts ih =>
    obtain ⟨fits, fits'⟩ := List.forall_mem_cons.mp fits
    rw [List.map_cons, expandAll] at gives
    cases first : T.expand u x t.text with
    | error fault => simp [first, Except.bind] at gives
    | ok r =>
      rw [first, Except.bind] at gives
      cases rest : T.expandAll u r.1 (ts.map Token.text) with
      | error fault => simp [rest, Except.map] at gives
      | ok out' =>
        rw [rest] at gives
        obtain rfl := Except.ok.inj gives
        have falls := Token.falls numeric fits first
        obtain ⟨least, later⟩ := ih fits' rest
        rw [List.flatMap_cons, List.count_append, List.count_append, List.length_append,
          List.length_append]
        refine ⟨Nat.add_le_add falls.least least, fun same => ?_⟩
        have here : r.2.count T.min = t.values.count T.min := by
          have bound := falls.least
          omega
        have there : out'.count T.min = (ts.flatMap Token.values).count T.min := by omega
        have short := falls.short here
        obtain ⟨short', last⟩ := later there
        refine ⟨Nat.add_le_add short short', fun length => ?_⟩
        exact List.forall_mem_cons.mpr ⟨falls.fails here (by omega), last (by omega)⟩

end IntegralType

/-- `getManyOr` expands good tokens as it should, and only these. -/
theorem getManyOr_iff (T : IntegralType) (clp : CLP) (name : String) (alt : List Int) (uninit : Int)
    (tokens : List Token) (given : clp.mKeyValues name = some (tokens.map Token.text))
    (fits : ∀ t ∈ tokens, t.Representable T) :
    Expanded T uninit tokens (clp.getManyOr T name alt uninit) ↔ ∀ t ∈ tokens, t.Expands T := by
  have runs : clp.getManyOr T name alt uninit =
      T.expandAll uninit uninit (tokens.map Token.text) := by
    rw [CLP.getManyOr, CLP.isSet, given]
    rfl
  constructor
  · intro expanded
    have result := expanded.result
    rw [runs] at result
    by_cases character : T.reads = .character
    · -- no token gives too much, so none gives too little
      have steps := (IntegralType.expandAll_steps character result).1
      have short : ∀ t ∈ tokens, ∀ x y out, T.expand uninit x t.text = .ok (y, out) →
          out.length ≤ t.values.length := by
        intro t member x y out gives
        have listed : t.values ∈ tokens.map Token.values := List.mem_map_of_mem member
        obtain ⟨before, after, inside⟩ := List.infix_of_mem_flatten listed
        have own : List.IsChain Token.Steps t.values := by
          rw [List.flatMap_def, ← inside] at steps
          exact steps.left_of_append.right_of_append
        refine Token.short_of_rounds character gives own ?_
        rintro a b rfl
        obtain ⟨y', v, xs, gives', bound⟩ := expanded.rounds a b member x
        rw [gives] at gives'
        obtain ⟨rfl, rfl⟩ := Prod.mk.inj (Except.ok.inj gives')
        exact Nat.succ_le_succ bound
      intro t member
      obtain ⟨x, y, gives⟩ := (IntegralType.expandAll_aligned short result).2 rfl t member
      exact Token.expands_of_gives (fits t member) gives
    · exact ((IntegralType.expandAll_falls character fits result).2 rfl).2 rfl
  · intro good
    refine ⟨runs.trans (IntegralType.expandAll_of_expands fits good _ _), fun a b member x => ?_⟩
    obtain ⟨y, gives⟩ := (good _ member).expand (fits _ member) uninit x
    refine ⟨y, a.value, between a.value b.value, gives, ?_⟩
    rw [length_between]
    exact Nat.sub_le _ _

/-! ## Two commands -/

/-- `i32`, where an overflow is undefined. -/
def int32 : IntegralType := ⟨32, true, false, .number, show 16 ≤ 32 by decide⟩

/-- One digit. -/
def Numeral.digit (d : Fin 10) : Numeral := ⟨.none, [d], List.cons_ne_nil d []⟩

/-- The values of `-u 3..7 5 2..1`. -/
theorem getManyOr_iff_ascending : Expanded int32 0
    [.range (.digit 3) (.digit 7), .one (.digit 5), .range (.digit 2) (.digit 1)]
    (CLP.getManyOr ⟨fun _ => some
      ([.range (.digit 3) (.digit 7), .one (.digit 5), .range (.digit 2) (.digit 1)].map
        Token.text)⟩ int32 "u" [] 0) := by
  refine (getManyOr_iff int32 _ "u" [] 0 _ rfl ?_).mpr ?_
  · simp only [List.forall_mem_cons, Token.Representable, List.not_mem_nil, false_implies,
      implies_true, and_true]
    decide
  · simp only [List.forall_mem_cons, Token.Expands, List.not_mem_nil, false_implies,
      implies_true, and_true]
    exact ⟨⟨fun _ => .inl (by decide), nofun⟩, nofun, fun _ => .inr (.inl (by decide)), nofun⟩

/-- The values of `-u 5..1`: only the first one of 5, 4, 3 and 2. -/
theorem getManyOr_descending : ∃ clp : CLP,
    clp.mKeyValues "u" = some [(Token.range (.digit 5) (.digit 1)).text] ∧
      clp.getManyOr int32 "u" [] 0 = .ok [5] ∧
      ¬ Expanded int32 0 [.range (.digit 5) (.digit 1)] (clp.getManyOr int32 "u" [] 0) := by
  let clp : CLP := ⟨fun _ => some [(Token.range (.digit 5) (.digit 1)).text]⟩
  have fits : int32.fits (Numeral.digit 5).value = true := by decide
  have fits' : int32.fits (Numeral.digit 1).value = true := by decide
  have gives : int32.expand 0 0 (Token.range (.digit 5) (.digit 1)).text = .ok (4, [5]) := by
    rw [IntegralType.expand_range (by decide) fits fits',
      IntegralType.range_down (by decide) fits fits' (by decide)]
    rfl
  have result : clp.getManyOr int32 "u" [] 0 = .ok [5] := by
    rw [CLP.getManyOr, CLP.isSet]
    simp only [clp, Option.isSome_some, if_true, Option.getD_some, IntegralType.expandAll, gives]
    rfl
  refine ⟨clp, rfl, result, fun expanded => ?_⟩
  have same := Except.ok.inj (result.symm.trans expanded.result)
  have other : [(5 : Int)] ≠ [Token.range (.digit 5) (.digit 1)].flatMap Token.values := by decide
  exact other same

/-- `u8` takes `1..3` for the characters from 1 to 3. -/
example : IntegralType.expandAll ⟨8, false, true, .character, ⟨rfl, rfl⟩⟩ 0 0
    [(Token.range (.digit 1) (.digit 3)).text] = .ok [49, 50] := rfl

end Coproto
