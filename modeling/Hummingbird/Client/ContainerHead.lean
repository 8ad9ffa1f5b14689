import Mathlib.Data.Finmap
import Mathlib.Data.String.Basic
import Hummingbird.Client.Http

/-!
# Reading a container's info from its HEAD answer

On a miss in both cache tiers, `ProxyDirectClient.GetContainerInfo` sends a
HEAD to the container and fills a fresh `ContainerInfo` from the answer's
headers: the object count and the bytes used with
`strconv.ParseInt(·, 10, 64)`, the storage policy index with `strconv.Atoi`,
and then, in one pass over the header map, the user and system metadata, the
two ACLs and the sync key.

The decimal parsers of package strconv are modelled from their source on the
characters of the text.  Every character they accept is ASCII, so a
character stands for the byte Go reads, and a text's length in bytes is its
`utf8ByteSize`.  `parseUint` keeps its cutoff and overflow checks,
`parseInt` its sign and its `int64` range check, and `atoi` its fast path
for texts shorter than 19 bytes, which is shown to agree with the general
path.

What the HEAD branch accepts is then exactly a 2xx answer whose three number
headers are an optional sign and decimal digits denoting `int64` values, and
every field it returns is the `Header.Get` of the header it names.  Since the
loop reads each key's value with `Header.Get` and no two keys of one family
name the same entry, the info does not depend on the order in which Go
enumerates the header map, which differs from run to run.
-/

namespace Hummingbird.Client.ContainerHead

open Hummingbird.Client.Http

/-! ## The decimal parsers of package strconv -/

/-- `strconv.NumError.Err`: the two errors of the decimal parsers. -/
inductive NumErr where
  /-- `strconv.ErrSyntax`, "invalid syntax". -/
  | invalid
  /-- `strconv.ErrRange`, "value out of range". -/
  | outOfRange
deriving DecidableEq, Repr

/-- A `*strconv.NumError`: the function that failed, its input and the error. -/
structure NumError where
  func : String
  num : String
  err : NumErr
deriving DecidableEq, Repr

/-- `maxVal` of `ParseUint(s, 10, 64)`: `1<<64 - 1`. -/
def maxVal : Nat := 2 ^ 64 - 1

/-- `maxUint64/10 + 1`: the least `n` whose tenfold passes `maxUint64`. -/
def cutoff : Nat := maxVal / 10 + 1

/-- `c - '0'`, the value of a decimal digit. -/
def digitValue (c : Char) : Nat := c.toNat - '0'.toNat

/--
The digit loop of `strconv.ParseUint(s, 10, 64)`, from the value `n` read so
far.  A letter's digit value is at least ten, the base, so every character
but `0` to `9` is a syntax error.  The source's overflow test
`n1 < n || n1 > maxVal` on the `uint64` sum is the test `n1 > maxVal` on its
exact value.
-/
def parseUintLoop (n : Nat) : List Char → Except NumErr Nat
  | [] => .ok n
  | c :: rest =>
      if c.isDigit then
        if cutoff ≤ n then .error .outOfRange
        else if maxVal < n * 10 + digitValue c then .error .outOfRange
        else parseUintLoop (n * 10 + digitValue c) rest
      else .error .invalid

/-- `strconv.ParseUint(s, 10, 64)`, its error before `ParseInt` rewraps it. -/
def parseUint : List Char → Except NumErr Nat
  | [] => .error .invalid
  | c :: rest => parseUintLoop 0 (c :: rest)

/--
`strconv.ParseInt(s, 10, 64)`.  A range error of `ParseUint` comes with the
value `maxVal`, which both sign checks reject, so it ends as a range error of
`ParseInt`.
-/
def parseInt (s : String) : Except NumError Int :=
  match s.data with
  | [] => .error ⟨"ParseInt", s, .invalid⟩
  | c :: rest =>
      match parseUint (if c = '+' ∨ c = '-' then rest else c :: rest) with
      | .error .invalid => .error ⟨"ParseInt", s, .invalid⟩
      | .error .outOfRange => .error ⟨"ParseInt", s, .outOfRange⟩
      | .ok un =>
          if c ≠ '-' ∧ 2 ^ 63 ≤ un then .error ⟨"ParseInt", s, .outOfRange⟩
          else if c = '-' ∧ 2 ^ 63 < un then .error ⟨"ParseInt", s, .outOfRange⟩
          else .ok (if c = '-' then -(un : Int) else un)

/-- The digit loop of `Atoi`'s fast path: `none` at the first character that is not a digit. -/
def atoiLoop (n : Nat) : List Char → Option Nat
  | [] => some n
  | c :: rest => if c.isDigit then atoiLoop (n * 10 + digitValue c) rest else none

/--
`strconv.Atoi` where `int` has 64 bits: a fast path for texts of 1 to 18
bytes, which cannot overflow, and otherwise `ParseInt(s, 10, 0)` with the
error's function renamed.
-/
def atoi (s : String) : Except NumError Int :=
  if 0 < s.utf8ByteSize ∧ s.utf8ByteSize < 19 then
    match s.data with
    | [] => .error ⟨"Atoi", s, .invalid⟩
    | c :: rest =>
        let digits := if c = '-' ∨ c = '+' then rest else c :: rest
        if digits = [] then .error ⟨"Atoi", s, .invalid⟩
        else
          match atoiLoop 0 digits with
          | none => .error ⟨"Atoi", s, .invalid⟩
          | some n => .ok (if c = '-' then -(n : Int) else n)
  else
    match parseInt s with
    | .error err => .error { err with func := "Atoi" }
    | .ok n => .ok n

/-! ## What the parsers accept -/

/-- The value of a string of decimal digits, most significant first. -/
def decimalValue (n : Nat) (digits : List Char) : Nat :=
  digits.foldl (fun n c => n * 10 + digitValue c) n

@[simp]
theorem decimalValue_nil (n : Nat) : decimalValue n [] = n :=
  rfl

@[simp]
theorem decimalValue_cons (n : Nat) (c : Char) (rest : List Char) :
    decimalValue n (c :: rest) = decimalValue (n * 10 + digitValue c) rest :=
  rfl

theorem isDigit_iff (c : Char) : c.isDigit ↔ 48 ≤ c.toNat ∧ c.toNat ≤ 57 := by
  simp [Char.isDigit, UInt32.le_def, BitVec.le_def, Char.toNat, UInt32.toNat]

theorem digitValue_le {c : Char} (digit : c.isDigit) : digitValue c ≤ 9 := by
  have := (isDigit_iff c).mp digit
  show c.toNat - 48 ≤ 9
  omega

theorem le_decimalValue : ∀ (n : Nat) (digits : List Char), n ≤ decimalValue n digits
  | _, [] => le_refl _
  | n, c :: rest => calc
      n ≤ n * 10 + digitValue c := by omega
      _ ≤ decimalValue (n * 10 + digitValue c) rest := le_decimalValue _ rest

theorem decimalValue_lt : ∀ (n : Nat) {digits : List Char}, (∀ c ∈ digits, c.isDigit) →
    decimalValue n digits < (n + 1) * 10 ^ digits.length
  | n, [], _ => by simp
  | n, c :: rest, digits => by
      have bound := decimalValue_lt (n * 10 + digitValue c) fun d mem => digits d (.tail _ mem)
      have small := digitValue_le (digits c (.head _))
      calc decimalValue n (c :: rest)
          < (n * 10 + digitValue c + 1) * 10 ^ rest.length := bound
        _ ≤ (n + 1) * 10 * 10 ^ rest.length := Nat.mul_le_mul_right _ (by omega)
        _ = (n + 1) * 10 ^ (c :: rest).length := by
            rw [List.length_cons, Nat.pow_succ, Nat.mul_assoc, Nat.mul_comm 10]

theorem maxVal_lt_cutoff_mul_ten : maxVal < cutoff * 10 := by
  unfold cutoff
  omega

/-- `ParseUint`'s loop succeeds exactly on digits whose value fits in 64 bits. -/
theorem parseUintLoop_eq_ok_iff {value : Nat} :
    ∀ {n : Nat} (digits : List Char), n ≤ maxVal → (parseUintLoop n digits = .ok value ↔
      (∀ c ∈ digits, c.isDigit) ∧ decimalValue n digits = value ∧ value ≤ maxVal)
  | n, [], fits => by
      simp only [parseUintLoop, Except.ok.injEq, List.not_mem_nil, false_implies, implies_true,
        decimalValue_nil, true_and]
      exact ⟨fun same => ⟨same, same ▸ fits⟩, And.left⟩
  | n, c :: rest, fits => by
      have past : ∀ m, maxVal < m → ¬ decimalValue m rest ≤ maxVal := fun m over bounded =>
        absurd (le_decimalValue m rest) (by omega)
      by_cases digit : c.isDigit
      · simp only [parseUintLoop, digit, if_true, decimalValue_cons]
        split
        · refine iff_of_false (by simp) fun ⟨_, same, bounded⟩ => past _ ?_ (same ▸ bounded)
          have := maxVal_lt_cutoff_mul_ten
          omega
        · split
          · exact iff_of_false (by simp) fun ⟨_, same, bounded⟩ => past _ ‹_› (same ▸ bounded)
          · rw [parseUintLoop_eq_ok_iff rest (by omega)]
            simp [digit]
      · simp only [parseUintLoop, digit]
        exact iff_of_false (by simp) fun ⟨all, _⟩ => digit (all c (.head _))

theorem parseUintLoop_outOfRange :
    ∀ {n : Nat} {digits : List Char}, parseUintLoop n digits = .error .outOfRange →
      maxVal < (n + 1) * 10 ^ digits.length
  | n, [], failed => by simp [parseUintLoop] at failed
  | n, c :: rest, failed => by
      have spread : (n + 1) * 10 ≤ (n + 1) * 10 ^ (c :: rest).length :=
        Nat.mul_le_mul_left _ (by simpa using Nat.pow_le_pow_right (by omega : 0 < 10) (by simp : 1 ≤ (c :: rest).length))
      by_cases digit : c.isDigit
      · have small := digitValue_le digit
        simp only [parseUintLoop, digit, if_true] at failed
        split at failed
        · have := maxVal_lt_cutoff_mul_ten
          omega
        · split at failed
          · omega
          · have bound := parseUintLoop_outOfRange failed
            calc maxVal < (n * 10 + digitValue c + 1) * 10 ^ rest.length := bound
              _ ≤ (n + 1) * 10 * 10 ^ rest.length := Nat.mul_le_mul_right _ (by omega)
              _ = (n + 1) * 10 ^ (c :: rest).length := by
                  rw [List.length_cons, Nat.pow_succ, Nat.mul_assoc, Nat.mul_comm 10]
      · simp [parseUintLoop, digit] at failed

/-- A long run of digits overflows before the loop reaches the letter after it. -/
example : parseInt "99999999999999999999x" = .error ⟨"ParseInt", "99999999999999999999x", .outOfRange⟩ :=
  rfl

/-- `text` is an optional sign and one or more decimal digits whose signed value is `value`. -/
def Denotes (text : List Char) (value : Int) : Prop :=
  ∃ sign ∈ [[], ['+'], ['-']], ∃ digits, text = sign ++ digits ∧ digits ≠ [] ∧
    (∀ c ∈ digits, c.isDigit) ∧
    value = if sign = ['-'] then -(decimalValue 0 digits : Int) else decimalValue 0 digits

/-- `text` is the decimal form of an `int64`: an optional sign and digits denoting `value`. -/
def DecimalInt64 (text : String) (value : Int) : Prop :=
  Denotes text.data value ∧ -2 ^ 63 ≤ value ∧ value < 2 ^ 63

theorem denotes_cons_iff {c : Char} {rest digits : List Char} {value : Int}
    (stripped : digits = if c = '+' ∨ c = '-' then rest else c :: rest) :
    Denotes (c :: rest) value ↔ digits ≠ [] ∧ (∀ d ∈ digits, d.isDigit) ∧
      value = if c = '-' then -(decimalValue 0 digits : Int) else decimalValue 0 digits := by
  have signs : ∀ {sign : List Char}, sign ∈ [[], ['+'], ['-']] ↔ sign = [] ∨ sign = ['+'] ∨ sign = ['-'] := by
    simp
  by_cases signed : c = '+' ∨ c = '-'
  · rw [if_pos signed] at stripped
    subst digits
    constructor
    · rintro ⟨sign, listed, tail, split, nonempty, all, rfl⟩
      rcases signs.mp listed with rfl | rfl | rfl
      · rw [List.nil_append] at split
        have digit := all c (split ▸ List.mem_cons_self _ _)
        rcases signed with rfl | rfl <;> exact absurd digit (by decide)
      · obtain ⟨rfl, rfl⟩ := List.cons_eq_cons.mp split
        exact ⟨nonempty, all, by simp⟩
      · obtain ⟨rfl, rfl⟩ := List.cons_eq_cons.mp split
        exact ⟨nonempty, all, by simp⟩
    · rintro ⟨nonempty, all, rfl⟩
      rcases signed with rfl | rfl
      · exact ⟨['+'], by simp, rest, rfl, nonempty, all, by simp⟩
      · exact ⟨['-'], by simp, rest, rfl, nonempty, all, by simp⟩
  · rw [if_neg signed] at stripped
    subst digits
    have unsigned : c ≠ '-' := fun minus => signed (.inr minus)
    constructor
    · rintro ⟨sign, listed, tail, split, nonempty, all, rfl⟩
      rcases signs.mp listed with rfl | rfl | rfl
      · rw [List.nil_append] at split
        subst split
        exact ⟨nonempty, all, by simp [unsigned]⟩
      · exact absurd (List.cons_eq_cons.mp split).1 fun plus => signed (.inl plus)
      · exact absurd (List.cons_eq_cons.mp split).1 fun minus => signed (.inr minus)
    · rintro ⟨nonempty, all, rfl⟩
      exact ⟨[], by simp, c :: rest, rfl, nonempty, all, by simp [unsigned]⟩

/--
`ParseInt(s, 10, 64)` accepts exactly an optional sign followed by decimal
digits, and returns the value they denote when it lies in the range of
`int64`.
-/
theorem parseInt_eq_ok_iff (s : String) (value : Int) :
    parseInt s = .ok value ↔ DecimalInt64 s value := by
  unfold DecimalInt64
  rcases s with ⟨_ | ⟨c, rest⟩⟩
  · refine iff_of_false (by simp [parseInt]) fun ⟨⟨sign, _, digits, split, nonempty, _⟩, _⟩ => ?_
    exact nonempty (List.append_eq_nil.mp split.symm).2
  · rw [denotes_cons_iff rfl]
    unfold parseInt
    dsimp only
    generalize (if c = '+' ∨ c = '-' then rest else c :: rest) = digits
    rcases digits with _ | ⟨d, ds⟩
    · simp [parseUint]
    · have big : (2 : Nat) ^ 63 < maxVal := by decide
      rw [show parseUint (d :: ds) = parseUintLoop 0 (d :: ds) from rfl]
      simp only [ne_eq, List.cons_ne_nil, not_false_eq_true, true_and]
      cases read : parseUintLoop 0 (d :: ds) with
      | error err =>
          refine iff_of_false (by cases err <;> intro same <;> cases same) fun ⟨⟨all, same⟩, low, high⟩ => ?_
          have fits : decimalValue 0 (d :: ds) ≤ maxVal := by
            by_cases minus : c = '-' <;> simp only [minus, if_true, if_false] at same <;> omega
          simp [(parseUintLoop_eq_ok_iff (d :: ds) (Nat.zero_le _)).mpr ⟨all, rfl, fits⟩] at read
      | ok un =>
          obtain ⟨all, value_eq, -⟩ := (parseUintLoop_eq_ok_iff (d :: ds) (Nat.zero_le _)).mp read
          simp only [eq_true all, true_and, value_eq]
          by_cases minus : c = '-'
          · simp only [minus, ne_eq, not_true_eq_false, false_and, if_false, true_and, if_true]
            split <;> simp <;> omega
          · simp only [minus, ne_eq, not_false_eq_true, true_and, false_and, if_false]
            split <;> simp <;> omega

theorem isDigit_digitChar {k : Nat} (small : k < 10) : (Nat.digitChar k).isDigit :=
  (by decide : ∀ k < 10, (Nat.digitChar k).isDigit) k small

theorem digitValue_digitChar {k : Nat} (small : k < 10) : digitValue (Nat.digitChar k) = k :=
  (by decide : ∀ k < 10, digitValue (Nat.digitChar k) = k) k small

theorem toDigitsCore_denotes :
    ∀ (fuel n : Nat) (digits : List Char), n < fuel → (∀ c ∈ digits, c.isDigit) →
      (∀ c ∈ Nat.toDigitsCore 10 fuel n digits, c.isDigit) ∧
        decimalValue 0 (Nat.toDigitsCore 10 fuel n digits) = decimalValue n digits
  | 0, _, _, within, _ => absurd within (Nat.not_lt_zero _)
  | fuel + 1, n, digits, within, all => by
      have last : ∀ c ∈ Nat.digitChar (n % 10) :: digits, c.isDigit :=
        List.forall_mem_cons.mpr ⟨isDigit_digitChar (Nat.mod_lt _ (by omega)), all⟩
      show (∀ c ∈ (if n / 10 = 0 then Nat.digitChar (n % 10) :: digits
          else Nat.toDigitsCore 10 fuel (n / 10) (Nat.digitChar (n % 10) :: digits)), c.isDigit) ∧
        decimalValue 0 (if n / 10 = 0 then Nat.digitChar (n % 10) :: digits
          else Nat.toDigitsCore 10 fuel (n / 10) (Nat.digitChar (n % 10) :: digits)) =
            decimalValue n digits
      split
      · refine ⟨last, ?_⟩
        rw [decimalValue_cons, digitValue_digitChar (Nat.mod_lt _ (by omega))]
        congr 1
        omega
      · rename_i more
        refine (toDigitsCore_denotes fuel (n / 10) _ (by omega) last).imp_right fun read => ?_
        rw [read, decimalValue_cons, digitValue_digitChar (Nat.mod_lt _ (by omega)), Nat.div_add_mod']

theorem toDigitsCore_ne_nil : ∀ (fuel n : Nat) (digit : Char) (digits : List Char),
    Nat.toDigitsCore 10 fuel n (digit :: digits) ≠ []
  | 0, _, _, _ => List.cons_ne_nil _ _
  | fuel + 1, n, digit, digits => by
      show (if n / 10 = 0 then Nat.digitChar (n % 10) :: digit :: digits
        else Nat.toDigitsCore 10 fuel (n / 10) (Nat.digitChar (n % 10) :: digit :: digits)) ≠ []
      split
      · exact List.cons_ne_nil _ _
      · exact toDigitsCore_ne_nil fuel _ _ _

theorem denotes_toString_nat (n : Nat) :
    (toString n).data ≠ [] ∧ (∀ c ∈ (toString n).data, c.isDigit) ∧
      decimalValue 0 (toString n).data = n := by
  have read := toDigitsCore_denotes (n + 1) n [] (by omega) (by simp)
  refine ⟨?_, read⟩
  show Nat.toDigitsCore 10 (n + 1) n [] ≠ []
  show (if n / 10 = 0 then [Nat.digitChar (n % 10)]
    else Nat.toDigitsCore 10 n (n / 10) [Nat.digitChar (n % 10)]) ≠ []
  split
  · exact List.cons_ne_nil _ _
  · exact toDigitsCore_ne_nil _ _ _ _

/-- The decimal form of an integer, as `strconv.FormatInt(n, 10)` and `strconv.Itoa` write it. -/
theorem denotes_toString (value : Int) : Denotes (toString value).data value := by
  cases value with
  | ofNat n =>
      obtain ⟨nonempty, all, read⟩ := denotes_toString_nat n
      exact ⟨[], by simp, (toString n).data, rfl, nonempty, all, by simp [read]⟩
  | negSucc n =>
      obtain ⟨nonempty, all, read⟩ := denotes_toString_nat (n + 1)
      refine ⟨['-'], by simp, (toString (n + 1)).data, rfl, nonempty, all, ?_⟩
      simp only [if_true, read]
      rfl

theorem length_le_utf8ByteSize (s : String) : s.data.length ≤ s.utf8ByteSize := by
  rcases s with ⟨text⟩
  rw [String.utf8ByteSize_mk]
  show text.length ≤ String.utf8Len text
  induction text with
  | nil => simp
  | cons c rest ih =>
      rw [String.utf8Len_cons, List.length_cons]
      have := c.utf8Size_pos
      omega

theorem atoiLoop_eq_some_iff : ∀ (n : Nat) (digits : List Char) (value : Nat),
    atoiLoop n digits = some value ↔ (∀ c ∈ digits, c.isDigit) ∧ decimalValue n digits = value
  | n, [], value => by simp [atoiLoop]
  | n, c :: rest, value => by
      by_cases digit : c.isDigit
      · simp [atoiLoop, digit, atoiLoop_eq_some_iff _ rest]
      · simp [atoiLoop, digit]

/--
`Atoi`'s fast path computes what `ParseInt` does, up to the function named in
the error: a text of fewer than 19 bytes holds at most 18 digits, which
cannot pass `int64`.
-/
theorem atoi_eq (s : String) :
    atoi s = match parseInt s with
      | .error err => .error { err with func := "Atoi" }
      | .ok n => .ok n := by
  unfold atoi
  split
  · rename_i fast
    rcases s with ⟨_ | ⟨c, rest⟩⟩
    · exact absurd fast.1 (by decide)
    have short : (c :: rest).length ≤ 18 :=
      Nat.le_of_lt_succ (lt_of_le_of_lt (length_le_utf8ByteSize ⟨c :: rest⟩) fast.2)
    have swap : (if c = '-' ∨ c = '+' then rest else c :: rest) =
        (if c = '+' ∨ c = '-' then rest else c :: rest) := by
      simp only [or_comm]
    unfold parseInt
    dsimp only
    rw [swap]
    have fewer : (if c = '+' ∨ c = '-' then rest else c :: rest).length ≤ 18 := by
      split <;> simp only [List.length_cons] at short ⊢ <;> omega
    generalize (if c = '+' ∨ c = '-' then rest else c :: rest) = digits at fewer ⊢
    have wide : 10 ^ digits.length ≤ maxVal :=
      le_trans (Nat.pow_le_pow_right (by omega) fewer) (by decide)
    rcases digits with _ | ⟨d, ds⟩
    · rfl
    rw [show parseUint (d :: ds) = parseUintLoop 0 (d :: ds) from rfl]
    simp only [List.cons_ne_nil, if_false]
    cases read : atoiLoop 0 (d :: ds) with
    | none =>
        have mixed : ¬ ∀ x ∈ d :: ds, x.isDigit := fun all => by
          simp [(atoiLoop_eq_some_iff 0 _ _).mpr ⟨all, rfl⟩] at read
        cases parsed : parseUintLoop 0 (d :: ds) with
        | error err =>
            cases err
            · rfl
            · exact absurd (parseUintLoop_outOfRange parsed) (by omega)
        | ok un => exact absurd ((parseUintLoop_eq_ok_iff _ (Nat.zero_le _)).mp parsed).1 mixed
    | some n =>
        obtain ⟨all, rfl⟩ := (atoiLoop_eq_some_iff 0 _ _).mp read
        have small : decimalValue 0 (d :: ds) < 2 ^ 63 :=
          lt_of_lt_of_le (by simpa using decimalValue_lt 0 all)
            (le_trans (Nat.pow_le_pow_right (by omega) fewer) (by decide))
        have big : (2 : Nat) ^ 63 < maxVal := by decide
        rw [(parseUintLoop_eq_ok_iff (d :: ds) (Nat.zero_le _)).mpr ⟨all, rfl, by omega⟩]
        have within : ¬ 2 ^ 63 ≤ decimalValue 0 (d :: ds) := by omega
        have within' : ¬ 2 ^ 63 < decimalValue 0 (d :: ds) := by omega
        simp only [within, within', and_false, if_false]
  · rfl

/-- `Atoi` accepts what `ParseInt(s, 10, 64)` accepts, with the same value. -/
theorem atoi_eq_ok_iff (s : String) (value : Int) : atoi s = .ok value ↔ DecimalInt64 s value := by
  rw [atoi_eq, ← parseInt_eq_ok_iff]
  cases parseInt s <;> simp

/-- Every `int64` written in decimal is read back by `Atoi`. -/
theorem atoi_toString {value : Int} (low : -2 ^ 63 ≤ value) (high : value < 2 ^ 63) :
    atoi (toString value) = .ok value :=
  (atoi_eq_ok_iff _ _).mpr ⟨denotes_toString value, low, high⟩

/-! ## The info read from a HEAD answer -/

/-- The fields of `ContainerInfo` that `GetContainerInfo` fills. -/
@[ext]
structure ContainerInfo where
  objectCount : Int
  objectBytes : Int
  storagePolicyIndex : Int
  metadata : Finmap (fun _ : String => String)
  sysMetadata : Finmap (fun _ : String => String)
  readACL : String
  writeACL : String
  syncKey : String
deriving DecidableEq

/-- `strings.HasPrefix(s, prefix)`, on characters. -/
def hasPrefix (s pre : String) : Bool :=
  pre.data.isPrefixOf s.data

/-- `s[start:]`, where the first `start` characters of `s` are ASCII, one byte each. -/
def sliceFrom (s : String) (start : Nat) : String :=
  ⟨s.data.drop start⟩

def metaPrefix : String := "X-Container-Meta-"

def sysmetaPrefix : String := "X-Container-Sysmeta-"

/-- One turn of the loop `for k := range resp.Header` of `GetContainerInfo`. -/
def readKey (header : Header) (ci : ContainerInfo) (k : String) : ContainerInfo :=
  if hasPrefix k metaPrefix then
    { ci with metadata := ci.metadata.insert (sliceFrom k 17) (header.get k) }
  else if hasPrefix k sysmetaPrefix then
    { ci with sysMetadata := ci.sysMetadata.insert (sliceFrom k 20) (header.get k) }
  else if k = "X-Container-Read" then { ci with readACL := header.get k }
  else if k = "X-Container-Write" then { ci with writeACL := header.get k }
  else if k = "X-Container-Sync-Key" then { ci with syncKey := header.get k }
  else ci

/-- The errors `GetContainerInfo` returns. -/
inductive InfoError where
  /-- `"%d error retrieving info for container %s/%s"`: the HEAD answered outside 2xx. -/
  | status (statusCode : Nat)
  /-- `"Error retrieving info for container %s/%s : %s"`: a number header did not parse. -/
  | parse (err : NumError)
  /-- `"No container info for testing"`: the local map held `NilContainerInfo`. -/
  | noInfoForTesting
deriving DecidableEq

/--
The `ci == nil` branch of `GetContainerInfo`: the HEAD answer's status and
header read into a fresh info.
-/
def infoFromHead (statusCode : Nat) (header : Header) : Except InfoError ContainerInfo := do
  if statusCode / 100 ≠ 2 then throw (.status statusCode)
  let objectCount ← (parseInt (header.get "X-Container-Object-Count")).mapError .parse
  let objectBytes ← (parseInt (header.get "X-Container-Bytes-Used")).mapError .parse
  let storagePolicyIndex ← (atoi (header.get "X-Backend-Storage-Policy-Index")).mapError .parse
  return header.entries.foldl (fun ci entry => readKey header ci entry.1)
    { objectCount, objectBytes, storagePolicyIndex, metadata := ∅, sysMetadata := ∅,
      readACL := "", writeACL := "", syncKey := "" }

/-- What a cache tier holds under `container/A/C`. -/
inductive Cached where
  /-- The `NilContainerInfo` pointer, which tests put in the local map. -/
  | nilContainerInfo
  | info (ci : ContainerInfo)

/--
`ProxyDirectClient.GetContainerInfo`, given what the tiers answer under
`container/A/C`: `lc[key]` (`none` when `lc` is nil or has no entry), and
`mc.GetStructured` (`none` when `mc` is nil; `some none` on a miss or a
failed read; a hit is a freshly decoded value, never the `NilContainerInfo`
pointer); the HEAD is the one it sends on a double miss.  Beside the result
comes what it stores with `mc.Set(key, ci, 30)`.
-/
def getContainerInfo (localEntry : Option Cached) (memcache : Option (Option ContainerInfo))
    (statusCode : Nat) (header : Header) : Except InfoError ContainerInfo × Option ContainerInfo :=
  match localEntry, memcache with
  | some .nilContainerInfo, _ => (.error .noInfoForTesting, none)
  | some (.info ci), _ => (.ok ci, none)
  | none, some (some ci) => (.ok ci, none)
  | none, _ =>
      match infoFromHead statusCode header with
      | .error err => (.error err, none)
      | .ok ci => (.ok ci, memcache.map fun _ => ci)

/-! ## What the loop over the header map computes -/

theorem hasPrefix_iff (s pre : String) : hasPrefix s pre ↔ pre.data <+: s.data :=
  List.isPrefixOf_iff_prefix

theorem hasPrefix_append (pre name : String) : hasPrefix (pre ++ name) pre :=
  (hasPrefix_iff _ _).mpr (List.prefix_append _ _)

theorem sliceFrom_append {pre : String} (name : String) {start : Nat} (length : pre.length = start) :
    sliceFrom (pre ++ name) start = name := by
  subst length
  show (⟨(pre.data ++ name.data).drop pre.data.length⟩ : String) = name
  rw [List.drop_left]

theorem eq_append_sliceFrom {s pre : String} {start : Nat} (found : hasPrefix s pre)
    (length : pre.length = start) : s = pre ++ sliceFrom s start := by
  obtain ⟨rest, split⟩ := (hasPrefix_iff s pre).mp found
  subst length
  rcases s with ⟨text⟩
  subst split
  show (⟨pre.data ++ rest⟩ : String) = ⟨pre.data ++ (pre.data ++ rest).drop pre.data.length⟩
  rw [List.drop_left]

theorem not_hasPrefix_sysmeta {k : String} (found : hasPrefix k metaPrefix) : ¬ hasPrefix k sysmetaPrefix := by
  intro both
  rcases List.prefix_or_prefix_of_prefix ((hasPrefix_iff _ _).mp found) ((hasPrefix_iff _ _).mp both) with
    shorter | shorter <;> exact absurd shorter (by decide)

theorem lookup_metadata_readKey (header : Header) (ci : ContainerInfo) (k name : String) :
    (readKey header ci k).metadata.lookup name =
      if k = metaPrefix ++ name then some (header.get (metaPrefix ++ name))
        else ci.metadata.lookup name := by
  by_cases same : k = metaPrefix ++ name
  · subst same
    rw [if_pos rfl]
    unfold readKey
    rw [if_pos (hasPrefix_append _ _), sliceFrom_append name (by decide : metaPrefix.length = 17)]
    exact Finmap.lookup_insert _
  · rw [if_neg same]
    unfold readKey
    split_ifs with meta
    · exact Finmap.lookup_insert_of_ne _ fun named => same (named ▸ eq_append_sliceFrom meta rfl)
    all_goals rfl

theorem lookup_sysMetadata_readKey (header : Header) (ci : ContainerInfo) (k name : String) :
    (readKey header ci k).sysMetadata.lookup name =
      if k = sysmetaPrefix ++ name then some (header.get (sysmetaPrefix ++ name))
        else ci.sysMetadata.lookup name := by
  by_cases same : k = sysmetaPrefix ++ name
  · subst same
    rw [if_pos rfl]
    unfold readKey
    have sysmeta := hasPrefix_append sysmetaPrefix name
    rw [if_neg fun meta => not_hasPrefix_sysmeta meta sysmeta, if_pos sysmeta,
      sliceFrom_append name (by decide : sysmetaPrefix.length = 20)]
    exact Finmap.lookup_insert _
  · rw [if_neg same]
    unfold readKey
    split_ifs with meta sysmeta
    · rfl
    · exact Finmap.lookup_insert_of_ne _ fun named => same (named ▸ eq_append_sliceFrom sysmeta rfl)
    all_goals rfl

theorem readACL_readKey (header : Header) (ci : ContainerInfo) (k : String) :
    (readKey header ci k).readACL =
      if k = "X-Container-Read" then header.get "X-Container-Read" else ci.readACL := by
  by_cases plain : k = "X-Container-Read"
  · subst plain
    unfold readKey
    rw [if_neg (by decide), if_neg (by decide), if_pos rfl, if_pos rfl]
  · rw [if_neg plain]
    unfold readKey
    split_ifs <;> rfl

theorem writeACL_readKey (header : Header) (ci : ContainerInfo) (k : String) :
    (readKey header ci k).writeACL =
      if k = "X-Container-Write" then header.get "X-Container-Write" else ci.writeACL := by
  by_cases plain : k = "X-Container-Write"
  · subst plain
    unfold readKey
    rw [if_neg (by decide), if_neg (by decide), if_neg (by decide), if_pos rfl, if_pos rfl]
  · rw [if_neg plain]
    unfold readKey
    split_ifs <;> rfl

theorem syncKey_readKey (header : Header) (ci : ContainerInfo) (k : String) :
    (readKey header ci k).syncKey =
      if k = "X-Container-Sync-Key" then header.get "X-Container-Sync-Key" else ci.syncKey := by
  by_cases plain : k = "X-Container-Sync-Key"
  · subst plain
    unfold readKey
    rw [if_neg (by decide), if_neg (by decide), if_neg (by decide), if_neg (by decide), if_pos rfl,
      if_pos rfl]
  · rw [if_neg plain]
    unfold readKey
    split_ifs <;> rfl

/--
A field that one turn of the loop sets from `key` alone ends, after the
whole loop, as `value` when `key` is among the keys, and as it began otherwise.
-/
theorem foldl_readKey {β : Type} (header : Header) (field : ContainerInfo → β) (key : String)
    (value : β) (step : ∀ ci k, field (readKey header ci k) = if k = key then value else field ci) :
    ∀ (keys : List String) (ci : ContainerInfo),
      field (keys.foldl (readKey header) ci) = if key ∈ keys then value else field ci
  | [], ci => by simp
  | k :: rest, ci => by
      rw [List.foldl_cons, foldl_readKey header field key value step rest, step]
      by_cases later : key ∈ rest
      · simp [later]
      · by_cases here : k = key
        · subst here
          simp
        · simp [later, here, Ne.symm here]

theorem numbers_foldl_readKey (header : Header) :
    ∀ (keys : List String) (ci : ContainerInfo),
      let read := keys.foldl (readKey header) ci
      read.objectCount = ci.objectCount ∧ read.objectBytes = ci.objectBytes ∧
        read.storagePolicyIndex = ci.storagePolicyIndex
  | [], _ => ⟨rfl, rfl, rfl⟩
  | k :: rest, ci => by
      have kept : (readKey header ci k).objectCount = ci.objectCount ∧
          (readKey header ci k).objectBytes = ci.objectBytes ∧
          (readKey header ci k).storagePolicyIndex = ci.storagePolicyIndex := by
        unfold readKey
        split_ifs <;> exact ⟨rfl, rfl, rfl⟩
      obtain ⟨count, bytes, policy⟩ := numbers_foldl_readKey header rest (readKey header ci k)
      exact ⟨count.trans kept.1, bytes.trans kept.2.1, policy.trans kept.2.2⟩

theorem get_of_not_mem {header : Header} {key : String} (absent : key ∉ header.entries.map Prod.fst) :
    header.get key = "" := by
  unfold Header.get
  cases found : header.entries.lookup key with
  | none => rfl
  | some values => exact absurd (List.mem_map_of_mem Prod.fst (Header.mem_of_lookup_eq_some found)) absent

theorem ite_mem_get (header : Header) (key : String) :
    (if key ∈ header.entries.map Prod.fst then header.get key else "") = header.get key := by
  split
  · rfl
  · exact (get_of_not_mem ‹_›).symm

/--
After the loop, every field the loop fills is the `Header.Get` of its header:
a metadata entry for each key of the family, under the key's name, and the
ACLs and sync key, which stay `""` exactly when their header is absent.
-/
theorem fields_foldl_readKey (header : Header) (objectCount objectBytes storagePolicyIndex : Int) :
    let read := (header.entries.map Prod.fst).foldl (readKey header)
      { objectCount, objectBytes, storagePolicyIndex, metadata := ∅, sysMetadata := ∅,
        readACL := "", writeACL := "", syncKey := "" }
    read.objectCount = objectCount ∧ read.objectBytes = objectBytes ∧
      read.storagePolicyIndex = storagePolicyIndex ∧
      (∀ name, read.metadata.lookup name = if metaPrefix ++ name ∈ header.entries.map Prod.fst
        then some (header.get (metaPrefix ++ name)) else none) ∧
      (∀ name, read.sysMetadata.lookup name = if sysmetaPrefix ++ name ∈ header.entries.map Prod.fst
        then some (header.get (sysmetaPrefix ++ name)) else none) ∧
      read.readACL = header.get "X-Container-Read" ∧ read.writeACL = header.get "X-Container-Write" ∧
      read.syncKey = header.get "X-Container-Sync-Key" := by
  intro read
  refine ⟨(numbers_foldl_readKey header _ _).1, (numbers_foldl_readKey header _ _).2.1,
    (numbers_foldl_readKey header _ _).2.2, fun name => ?_, fun name => ?_, ?_, ?_, ?_⟩
  · exact foldl_readKey header (fun ci => ci.metadata.lookup name) _ _
      (fun ci k => lookup_metadata_readKey header ci k name) _ _
  · exact foldl_readKey header (fun ci => ci.sysMetadata.lookup name) _ _
      (fun ci k => lookup_sysMetadata_readKey header ci k name) _ _
  · exact (foldl_readKey header ContainerInfo.readACL _ _ (readACL_readKey header) _ _).trans
      (ite_mem_get header _)
  · exact (foldl_readKey header ContainerInfo.writeACL _ _ (writeACL_readKey header) _ _).trans
      (ite_mem_get header _)
  · exact (foldl_readKey header ContainerInfo.syncKey _ _ (syncKey_readKey header) _ _).trans
      (ite_mem_get header _)

theorem bind_eq_ok {ε α β : Type} {x : Except ε α} {f : α → Except ε β} {b : β} :
    x >>= f = .ok b ↔ ∃ a, x = .ok a ∧ f a = .ok b := by
  cases x with
  | error e => exact ⟨fun bound => (nomatch bound), fun ⟨_, failed, _⟩ => (nomatch failed)⟩
  | ok a => exact ⟨fun bound => ⟨a, rfl, bound⟩, fun ⟨_, same, bound⟩ => by cases same; exact bound⟩

theorem mapError_eq_ok {ε ε' α : Type} {x : Except ε α} {g : ε → ε'} {a : α} :
    x.mapError g = .ok a ↔ x = .ok a := by
  cases x with
  | error e => exact ⟨fun mapped => (nomatch mapped), fun failed => (nomatch failed)⟩
  | ok a => exact ⟨fun mapped => by cases mapped; rfl, fun same => by cases same; rfl⟩

theorem pure_eq_ok {ε α : Type} {a b : α} : (pure a : Except ε α) = .ok b ↔ a = b :=
  ⟨fun same => by cases same; rfl, fun same => same ▸ rfl⟩

/-- The HEAD branch succeeds when the status is 2xx and the three numbers parse; then the loop runs. -/
theorem infoFromHead_eq_ok_iff_parsed (statusCode : Nat) (header : Header) (ci : ContainerInfo) :
    infoFromHead statusCode header = .ok ci ↔ statusCode / 100 = 2 ∧
      ∃ objectCount objectBytes storagePolicyIndex,
        parseInt (header.get "X-Container-Object-Count") = .ok objectCount ∧
        parseInt (header.get "X-Container-Bytes-Used") = .ok objectBytes ∧
        atoi (header.get "X-Backend-Storage-Policy-Index") = .ok storagePolicyIndex ∧
        (header.entries.map Prod.fst).foldl (readKey header)
          { objectCount, objectBytes, storagePolicyIndex, metadata := ∅, sysMetadata := ∅,
            readACL := "", writeACL := "", syncKey := "" } = ci := by
  unfold infoFromHead
  dsimp only
  by_cases status : statusCode / 100 = 2
  · rw [if_neg (not_not.mpr status)]
    simp only [status, true_and, bind_eq_ok, mapError_eq_ok, pure_eq_ok, List.foldl_map]
    constructor
    · rintro ⟨_, count, counted, bytes, measured, policy, indexed, read⟩
      exact ⟨count, bytes, policy, counted, measured, indexed, read⟩
    · rintro ⟨count, bytes, policy, counted, measured, indexed, read⟩
      exact ⟨PUnit.unit, count, counted, bytes, measured, policy, indexed, read⟩
  · rw [if_pos status]
    exact iff_of_false (fun failed => nomatch failed) fun ⟨two, _⟩ => status two

theorem storagePolicyIndex_of_infoFromHead {statusCode : Nat} {header : Header} {ci : ContainerInfo}
    (found : infoFromHead statusCode header = .ok ci) :
    DecimalInt64 (header.get "X-Backend-Storage-Policy-Index") ci.storagePolicyIndex := by
  obtain ⟨-, count, bytes, policy, -, -, indexed, rfl⟩ := (infoFromHead_eq_ok_iff_parsed _ _ _).mp found
  rw [(fields_foldl_readKey header count bytes policy).2.2.1]
  exact (atoi_eq_ok_iff _ _).mp indexed

/--
The HEAD branch of `GetContainerInfo` returns `ci` exactly when the answer is
2xx, the object count, bytes used and policy index headers are the decimal
forms of `ci`'s three numbers within `int64`, `ci` holds a user or system
metadata entry for each header of that family, under the header's name and
with its value, and no other, and its ACLs and sync key are the values of
their headers (`""` when absent).
-/
theorem infoFromHead_eq_ok_iff (statusCode : Nat) (header : Header) (ci : ContainerInfo) :
    infoFromHead statusCode header = .ok ci ↔
      statusCode / 100 = 2 ∧
      DecimalInt64 (header.get "X-Container-Object-Count") ci.objectCount ∧
      DecimalInt64 (header.get "X-Container-Bytes-Used") ci.objectBytes ∧
      DecimalInt64 (header.get "X-Backend-Storage-Policy-Index") ci.storagePolicyIndex ∧
      (∀ name, ci.metadata.lookup name = if metaPrefix ++ name ∈ header.entries.map Prod.fst
        then some (header.get (metaPrefix ++ name)) else none) ∧
      (∀ name, ci.sysMetadata.lookup name = if sysmetaPrefix ++ name ∈ header.entries.map Prod.fst
        then some (header.get (sysmetaPrefix ++ name)) else none) ∧
      ci.readACL = header.get "X-Container-Read" ∧ ci.writeACL = header.get "X-Container-Write" ∧
      ci.syncKey = header.get "X-Container-Sync-Key" := by
  rw [infoFromHead_eq_ok_iff_parsed]
  refine and_congr_right fun _ => ?_
  constructor
  · rintro ⟨count, bytes, policy, counted, measured, indexed, rfl⟩
    obtain ⟨count_eq, bytes_eq, policy_eq, fields⟩ := fields_foldl_readKey header count bytes policy
    rw [count_eq, bytes_eq, policy_eq]
    exact ⟨(parseInt_eq_ok_iff _ _).mp counted, (parseInt_eq_ok_iff _ _).mp measured,
      (atoi_eq_ok_iff _ _).mp indexed, fields⟩
  · rintro ⟨counted, measured, indexed, meta, sysmeta, read, write, sync⟩
    refine ⟨ci.objectCount, ci.objectBytes, ci.storagePolicyIndex, (parseInt_eq_ok_iff _ _).mpr counted,
      (parseInt_eq_ok_iff _ _).mpr measured, (atoi_eq_ok_iff _ _).mpr indexed, ?_⟩
    obtain ⟨count_eq, bytes_eq, policy_eq, meta', sysmeta', read', write', sync'⟩ :=
      fields_foldl_readKey header ci.objectCount ci.objectBytes ci.storagePolicyIndex
    ext1
    · exact count_eq
    · exact bytes_eq
    · exact policy_eq
    · exact Finmap.ext_lookup fun name => (meta' name).trans (meta name).symm
    · exact Finmap.ext_lookup fun name => (sysmeta' name).trans (sysmeta name).symm
    · exact read'.trans read.symm
    · exact write'.trans write.symm
    · exact sync'.trans sync.symm

/-- A public-read container whose answer carries a signed byte count. -/
example : (infoFromHead 204 ⟨[("X-Container-Object-Count", ["12"]), ("X-Container-Bytes-Used", ["-5"]),
    ("X-Backend-Storage-Policy-Index", ["1"]), ("X-Container-Read", [".r:*"])], by decide⟩).map
      (fun ci => (ci.objectBytes, ci.readACL, ci.writeACL)) = .ok (-5, ".r:*", "") :=
  rfl

theorem get_of_perm {left right : Header} (reordered : left.entries.Perm right.entries) (key : String) :
    left.get key = right.get key := by
  unfold Header.get
  rw [Header.lookup_eq_of_perm reordered]

/--
`GetContainerInfo` reads the same info from a HEAD answer, or fails with the
same error, in whatever order Go enumerates the answer's header map.
-/
theorem infoFromHead_of_perm {left right : Header} (reordered : left.entries.Perm right.entries)
    (statusCode : Nat) : infoFromHead statusCode left = infoFromHead statusCode right := by
  have gets := get_of_perm reordered
  have keys : ∀ key, key ∈ left.entries.map Prod.fst ↔ key ∈ right.entries.map Prod.fst :=
    fun _ => (reordered.map Prod.fst).mem_iff
  have folds : ∀ objectCount objectBytes storagePolicyIndex,
      left.entries.foldl (fun ci entry => readKey left ci entry.1)
        { objectCount, objectBytes, storagePolicyIndex, metadata := ∅, sysMetadata := ∅,
          readACL := "", writeACL := "", syncKey := "" } =
      right.entries.foldl (fun ci entry => readKey right ci entry.1)
        { objectCount, objectBytes, storagePolicyIndex, metadata := ∅, sysMetadata := ∅,
          readACL := "", writeACL := "", syncKey := "" } := by
    intro objectCount objectBytes storagePolicyIndex
    rw [← List.foldl_map Prod.fst (readKey left), ← List.foldl_map Prod.fst (readKey right)]
    obtain ⟨count, bytes, policy, meta, sysmeta, read, write, sync⟩ :=
      fields_foldl_readKey left objectCount objectBytes storagePolicyIndex
    obtain ⟨count', bytes', policy', meta', sysmeta', read', write', sync'⟩ :=
      fields_foldl_readKey right objectCount objectBytes storagePolicyIndex
    ext1
    · exact count.trans count'.symm
    · exact bytes.trans bytes'.symm
    · exact policy.trans policy'.symm
    · exact Finmap.ext_lookup fun name => by simp only [meta, meta', keys, gets]
    · exact Finmap.ext_lookup fun name => by simp only [sysmeta, sysmeta', keys, gets]
    · rw [read, read', gets]
    · rw [write, write', gets]
    · rw [sync, sync', gets]
  unfold infoFromHead
  simp only [gets, folds]

/-- Two enumerations of one HEAD answer's header map read the same info. -/
theorem infoFromHead_of_perm_swapped :
    let count : String × List String := ("X-Container-Object-Count", ["3"])
    let color : String × List String := ("X-Container-Meta-Color", ["blue"])
    let left : Header := ⟨[count, color], by decide⟩
    let right : Header := ⟨[color, count], by decide⟩
    left.entries.Perm right.entries ∧ infoFromHead 204 left = infoFromHead 204 right := by
  intro count color left right
  exact ⟨List.Perm.swap _ _ _, infoFromHead_of_perm (List.Perm.swap _ _ _) 204⟩

end Hummingbird.Client.ContainerHead
