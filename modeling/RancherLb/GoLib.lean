import Mathlib.Data.List.Sort
import Mathlib.Data.List.Defs
import Mathlib.Data.Nat.Digits
import Mathlib.Tactic.IntervalCases

/-!
# The Go library the controller calls

The controller of `rancher.go` leans on a few functions of Go's standard library: `strings.Split`, `strings.SplitN`,
`strings.TrimPrefix` and `TrimSuffix`, `strings.EqualFold`, `regexp.ReplaceAllString`, `sort.Sort` and `crypto/sha1`.
This module gives each the meaning the controller relies on, and the few facts about them that the later modules use.

A Go call that does not return normally ends in one of the ways of `Fault`: an `error` value handed back to the caller, a
runtime panic (an index out of range, a nil dereference), or, in the model only, a recursion that did not come back within
the fuel it was given.
-/

namespace RancherLb

/-- How a computation of the controller ends when it does not return a value. -/
inductive Fault where
  /-- An `error` value returned to the caller. -/
  | error (msg : String)
  /-- A Go runtime panic: it unwinds the goroutine and ends the process. -/
  | panic (msg : String)
  /-- The recursion did not return within the fuel given: not an outcome of the program but of the model. -/
  | outOfFuel
  deriving DecidableEq, Repr

/-- Results are compared case by case, so that a run on a fixed input can be checked by evaluation. -/
instance exceptDecidableEq {ε α : Type} [DecidableEq ε] [DecidableEq α] : DecidableEq (Except ε α)
  | .error a, .error b => if h : a = b then isTrue (h ▸ rfl) else isFalse fun h' => h (Except.error.inj h')
  | .ok a, .ok b => if h : a = b then isTrue (h ▸ rfl) else isFalse fun h' => h (Except.ok.inj h')
  | .error _, .ok _ => isFalse Except.noConfusion
  | .ok _, .error _ => isFalse Except.noConfusion

/-- A Go `error` that a collaborator (the metadata client, the certificate fetcher, the provider) returns, as a fault of the
controller: a collaborator neither panics nor runs out of fuel. -/
def liftError {α : Type} (x : Except String α) : Except Fault α := x.mapError Fault.error

namespace Go

/-! ## strings -/

/-- `strings.Split(s, sep)` for a separator of one character: the pieces between the separators, the empty ones included;
the empty string splits into one empty piece. -/
def split (s : String) (sep : Char) : List String := (s.data.splitOn sep).map String.mk

/-- `strings.SplitN(s, sep, 2)`: the piece before the first separator and everything after it, or `[s]` when `s` holds
no separator. -/
def splitN2 (s : String) (sep : Char) : List String :=
  match s.data.splitOn sep with
  | [] => [s]
  | [w] => [String.mk w]
  | w :: ws => [String.mk w, String.mk ((ws.intersperse [sep]).flatten)]

/-- Indexing a slice, `xs[i]`: a panic when `i` is out of range. -/
def index (xs : List String) (i : Nat) : Except Fault String :=
  match xs[i]? with
  | some x => .ok x
  | none => .error (.panic "runtime error: index out of range")

/-- `strings.HasPrefix(s, pre)`. -/
def hasPrefix (s pre : String) : Bool := pre.data.isPrefixOf s.data

/-- `strings.HasSuffix(s, suf)`. -/
def hasSuffix (s suf : String) : Bool := suf.data.isSuffixOf s.data

/-- `strings.TrimSuffix(s, suf)`. -/
def trimSuffix (s suf : String) : String :=
  if hasSuffix s suf then String.mk (s.data.take (s.data.length - suf.data.length)) else s

/-- `strings.TrimPrefix(s, pre)`. -/
def trimPrefix (s pre : String) : String := if hasPrefix s pre then String.mk (s.data.drop pre.data.length) else s

/-- The case folding of `strings.EqualFold`: ASCII letters, and the two non-ASCII letters whose Unicode simple-fold orbit
holds an ASCII letter (the Kelvin sign, with `k`, and the long s, with `s`). On two strings one of which is ASCII this is
exactly Go's folding; other non-ASCII letters are compared as they are. -/
def foldChar (c : Char) : Char :=
  if c = 'K' then 'k' else if c = 'ſ' then 's' else c.toLower

/-- `strings.EqualFold(s, t)`: equality under case folding. -/
def equalFold (s t : String) : Bool := s.data.map foldChar == t.data.map foldChar

/-! ## strconv and fmt -/

/-- `strconv.Itoa(n)`, and the `%v` verb of `fmt.Sprintf` on an `int`: the decimal numeral. -/
def itoa (n : Int) : String := toString n

/-! ## regexp -/

/-- The scan behind `[^A-Za-z0-9]+` replaced by `_`: `run` says whether the previous character was already replaced, so
that a whole run of non-alphanumerics gives one `_`. -/
def collapseNonAlnum : Bool → List Char → List Char
  | _, [] => []
  | run, c :: cs =>
    if c.isAlphanum then c :: collapseNonAlnum false cs
    else if run then collapseNonAlnum true cs
    else '_' :: collapseNonAlnum true cs

/-- `regexp.MustCompile("[^A-Za-z0-9]+").ReplaceAllString(s, "_")`: every maximal run of characters that are not ASCII
letters or digits becomes one `_`. -/
def replaceNonAlnum (s : String) : String := String.mk (collapseNonAlnum false s.data)

/-! ## Ordering strings -/

/-- The lexicographic order of code points. -/
def lexLess : List Char → List Char → Bool
  | [], [] => false
  | [], _ :: _ => true
  | _ :: _, [] => false
  | a :: as, b :: bs => Nat.blt a.toNat b.toNat || (Nat.beq a.toNat b.toNat && lexLess as bs)

/-- Go's `<` on strings: byte by byte, which on UTF-8 text is the order of the code points. -/
def stringLess (a b : String) : Bool := lexLess a.data b.data

/-! ## sort -/

/-- `sort.Sort` for a `Less`. On the slices the controller sorts (at most 12 elements each in every scenario of this
development) Go runs its insertion sort, which is stable: an element moves left past the elements strictly greater than it.
`List.insertionSort` with the relation "not less the other way" computes the same stable order. -/
def sortSort {α : Type} (less : α → α → Bool) (l : List α) : List α :=
  l.insertionSort (fun a b => less b a = false)

/-! ## crypto/sha1 and encoding/hex -/

/-- Rotation of a 32-bit word to the left. -/
def rotl (x n : UInt32) : UInt32 := (x <<< n) ||| (x >>> (32 - n))

/-- SHA-1 padding: a one bit, zeros up to 56 bytes modulo 64, and the length in bits as eight big-endian bytes. -/
def sha1Pad (msg : List UInt8) : List UInt8 :=
  let bitLen := msg.length * 8
  let tail : List UInt8 := (List.range 8).reverse.map fun i => (bitLen >>> (8 * i)).toUInt8
  msg ++ (0x80 :: List.replicate ((119 - msg.length % 64) % 64) 0) ++ tail

/-- A big-endian word from four bytes. -/
def word (b : List UInt8) : UInt32 := b.foldl (fun w x => (w <<< 8) ||| x.toUInt32) 0

/-- The SHA-1 message schedule: the sixteen words of a block and the 64 words derived from them. -/
def schedule (w : List UInt32) : List UInt32 :=
  (List.range 64).foldl (fun w i =>
    w ++ [rotl (w.getD (i + 13) 0 ^^^ w.getD (i + 8) 0 ^^^ w.getD (i + 2) 0 ^^^ w.getD i 0) 1]) w

/-- One of the 80 rounds of SHA-1 on the working variables, for round `t.1` with schedule word `t.2`. -/
def sha1Round (s : UInt32 × UInt32 × UInt32 × UInt32 × UInt32) (t : Nat × UInt32) :
    UInt32 × UInt32 × UInt32 × UInt32 × UInt32 :=
  let (a, b, c, d, e) := s
  let (f, k) : UInt32 × UInt32 :=
    if t.1 < 20 then ((b &&& c) ||| (~~~b &&& d), 0x5A827999)
    else if t.1 < 40 then (b ^^^ c ^^^ d, 0x6ED9EBA1)
    else if t.1 < 60 then ((b &&& c) ||| (b &&& d) ||| (c &&& d), 0x8F1BBCDC)
    else (b ^^^ c ^^^ d, 0xCA62C1D6)
  (rotl a 5 + f + e + k + t.2, a, rotl b 30, c, d)

/-- One 64-byte block added into the hash state. -/
def sha1Block (h : UInt32 × UInt32 × UInt32 × UInt32 × UInt32) (chunk : List UInt8) :
    UInt32 × UInt32 × UInt32 × UInt32 × UInt32 :=
  let w := schedule ((chunk.toChunks 4).map word)
  let (a, b, c, d, e) := ((List.range 80).zip w).foldl sha1Round h
  let (h0, h1, h2, h3, h4) := h
  (h0 + a, h1 + b, h2 + c, h3 + d, h4 + e)

/-- `sha1.Sum`: the 20-byte digest. -/
def sha1 (msg : List UInt8) : List UInt8 :=
  let (h0, h1, h2, h3, h4) := ((sha1Pad msg).toChunks 64).foldl sha1Block
    (0x67452301, 0xEFCDAB89, 0x98BADCFE, 0x10325476, 0xC3D2E1F0)
  [h0, h1, h2, h3, h4].flatMap fun x => ([24, 16, 8, 0] : List UInt32).map fun s => (x >>> s).toUInt8

/-- A lowercase hexadecimal digit. -/
def hexDigit (n : Nat) : Char := if n < 10 then Char.ofNat (48 + n) else Char.ofNat (87 + n)

/-- `hex.EncodeToString`. -/
def hexEncode (b : List UInt8) : String :=
  String.mk (b.flatMap fun x => [hexDigit (x.toNat / 16), hexDigit (x.toNat % 16)])

end Go

/-! ## Facts about the library -/

namespace GoAux

open Go

/-- Splitting a string with no separator in it gives the string. -/
theorem splitOn_of_not_mem {s : String} {sep : Char} (h : sep ∉ s.data) : s.data.splitOn sep = [s.data] :=
  List.splitOnP_eq_single _ _ fun x hx hxs => h (by rw [← beq_iff_eq.mp hxs]; exact hx)

theorem split_of_not_mem {s : String} {sep : Char} (h : sep ∉ s.data) : split s sep = [s] := by
  simp only [split, splitOn_of_not_mem h]
  rfl

/-- A string with no separator is one piece for `SplitN` too. -/
theorem splitN2_of_not_mem {s : String} {sep : Char} (h : sep ∉ s.data) : splitN2 s sep = [s] := by
  simp only [splitN2, splitOn_of_not_mem h]

/-- A string with no separator, a separator and the rest splits into that string and the pieces of the rest. -/
theorem split_append_sep {a s : String} {sep : Char} (h : sep ∉ a.data) :
    split (a ++ String.singleton sep ++ s) sep = a :: split s sep := by
  simp only [split, List.splitOn, String.data_append]
  have : a.data ++ (String.singleton sep).data ++ s.data = a.data ++ sep :: s.data := by
    simp [String.singleton]
  rw [this, List.splitOnP_first _ _ (fun x hx hxs => h (by rw [← beq_iff_eq.mp hxs]; exact hx)) sep (by simp)]
  rfl

/-- `SplitN(s, sep, 2)` of a string with no separator, a separator and the rest gives the two back. -/
theorem splitN2_append_sep {a s : String} {sep : Char} (h : sep ∉ a.data) :
    splitN2 (a ++ String.singleton sep ++ s) sep = [a, s] := by
  have hsplit : (a ++ String.singleton sep ++ s).data.splitOn sep = a.data :: s.data.splitOn sep := by
    simp only [List.splitOn, String.data_append]
    have : a.data ++ (String.singleton sep).data ++ s.data = a.data ++ sep :: s.data := by
      simp [String.singleton]
    rw [this, List.splitOnP_first _ _ (fun x hx hxs => h (by rw [← beq_iff_eq.mp hxs]; exact hx)) sep (by simp)]
  have hjoin : [sep].intercalate (s.data.splitOn sep) = s.data := List.intercalate_splitOn s.data sep
  rw [splitN2, hsplit]
  cases hs : s.data.splitOn sep with
  | nil => exact absurd hs (List.splitOnP_ne_nil _ _)
  | cons w ws =>
    rw [hs] at hjoin
    exact congrArg (fun t => [a, t]) (congrArg String.mk hjoin)

/-- A bind that returns a value: the first computation returned a value, and the rest returned the value. -/
theorem bind_eq_ok {ε α β : Type} {x : Except ε α} {f : α → Except ε β} {b : β} (h : x >>= f = .ok b) :
    ∃ a, x = .ok a ∧ f a = .ok b := by
  cases x with
  | error e => exact absurd h (by intro h'; cases h')
  | ok a => exact ⟨a, rfl, h⟩

@[simp] theorem ok_bind {ε α β : Type} (a : α) (f : α → Except ε β) : (Except.ok a >>= f : Except ε β) = f a := rfl

@[simp] theorem error_bind {ε α β : Type} (e : ε) (f : α → Except ε β) :
    (Except.error e >>= f : Except ε β) = .error e := rfl

/-- A lifted collaborator's result is never an exhausted fuel. -/
theorem liftError_ne_outOfFuel {α : Type} (x : Except String α) : liftError x ≠ .error .outOfFuel := by
  cases x <;> simp [liftError, Except.mapError]

/-- A sequence in which no step exhausts the fuel does not exhaust it. -/
theorem bind_ne_outOfFuel {α β : Type} {x : Except Fault α} {f : α → Except Fault β} (hx : x ≠ .error .outOfFuel)
    (hf : ∀ a, x = .ok a → f a ≠ .error .outOfFuel) : x >>= f ≠ .error .outOfFuel := by
  cases x with
  | error e => rw [error_bind]; exact fun h => hx (by cases h; rfl)
  | ok a => rw [ok_bind]; exact hf a rfl

/-- A bind that does not run out of fuel did not run out in its first step. -/
theorem ne_of_bind_ne {α β : Type} {x : Except Fault α} {f : α → Except Fault β} (h : x >>= f ≠ .error .outOfFuel) :
    x ≠ .error .outOfFuel := by
  rintro rfl
  exact h rfl

/-- A bind that does not run out of fuel keeps its result when the continuation is replaced by one that agrees with it
wherever it does not run out. -/
theorem bind_congr_ne {α β : Type} {x : Except Fault α} {f g : α → Except Fault β} (h : x >>= f ≠ .error .outOfFuel)
    (hfg : ∀ a, x = .ok a → f a ≠ .error .outOfFuel → g a = f a) : x >>= g = x >>= f := by
  cases x with
  | error e => rfl
  | ok a => exact hfg a rfl h

/-! ### Decimal numerals -/

/-- The number a list of decimal digits denotes. -/
def decimalValue (l : List Char) : Nat := l.foldl (fun acc c => 10 * acc + (c.toNat - 48)) 0

theorem digitChar_value {d : Nat} (h : d < 10) : (Nat.digitChar d).toNat - 48 = d := by
  interval_cases d <;> rfl

theorem digitChar_ne_underscore {d : Nat} (h : d < 10) : Nat.digitChar d ≠ '_' := by
  interval_cases d <;> decide

theorem toDigitsCore_append (f n : Nat) (ds : List Char) :
    Nat.toDigitsCore 10 f n ds = Nat.toDigitsCore 10 f n [] ++ ds := by
  induction f generalizing n ds with
  | zero => rfl
  | succ f ih =>
    simp only [Nat.toDigitsCore]
    split
    · rfl
    · rw [ih _ (_ :: ds), ih _ [_]]
      simp

theorem mem_toDigitsCore {f n : Nat} {c : Char} (h : c ∈ Nat.toDigitsCore 10 f n []) :
    ∃ d < 10, c = Nat.digitChar d := by
  induction f generalizing n with
  | zero => simp [Nat.toDigitsCore] at h
  | succ f ih =>
    simp only [Nat.toDigitsCore] at h
    split at h
    · exact ⟨_, Nat.mod_lt _ (by omega), List.mem_singleton.mp h⟩
    · rw [toDigitsCore_append] at h
      rcases List.mem_append.mp h with h | h
      · exact ih h
      · exact ⟨_, Nat.mod_lt _ (by omega), List.mem_singleton.mp h⟩

/-- With enough fuel, the digits `toDigitsCore` writes denote the number. -/
theorem decimalValue_toDigitsCore (f n : Nat) (hf : n < f) : decimalValue (Nat.toDigitsCore 10 f n []) = n := by
  induction f generalizing n with
  | zero => omega
  | succ f ih =>
    simp only [Nat.toDigitsCore]
    split
    · simp only [decimalValue, List.foldl, digitChar_value (Nat.mod_lt n (by omega))]
      omega
    · rw [toDigitsCore_append]
      simp only [decimalValue, List.foldl_append, List.foldl] at ih ⊢
      rw [ih _ (by omega), digitChar_value (Nat.mod_lt n (by omega))]
      omega

theorem itoa_of_nonneg {a : Int} (h : 0 ≤ a) : itoa a = Nat.repr a.toNat := by
  obtain ⟨m, rfl⟩ := Int.eq_ofNat_of_zero_le h
  rfl

/-- The numeral of a port holds no `_`. -/
theorem underscore_not_mem_itoa {a : Int} (h : 0 ≤ a) : '_' ∉ (itoa a).data := by
  rw [itoa_of_nonneg h]
  intro hm
  obtain ⟨d, hd, he⟩ := mem_toDigitsCore hm
  exact digitChar_ne_underscore hd he.symm

/-- Two non-negative numbers with the same numeral are equal. -/
theorem itoa_injective {a b : Int} (ha : 0 ≤ a) (hb : 0 ≤ b) (h : itoa a = itoa b) : a = b := by
  rw [itoa_of_nonneg ha, itoa_of_nonneg hb] at h
  have hv := congrArg (fun s : String => decimalValue s.data) h
  simp only [Nat.repr, List.asString, Nat.toDigits] at hv
  rw [decimalValue_toDigitsCore _ _ (Nat.lt_succ_self _), decimalValue_toDigitsCore _ _ (Nat.lt_succ_self _)] at hv
  omega

/-- A word without a separator, the separator and the rest: the word and the rest are determined. -/
theorem append_sep_inj {a b r s : List Char} {c : Char} (ha : c ∉ a) (hb : c ∉ b) (h : a ++ c :: r = b ++ c :: s) :
    a = b ∧ r = s := by
  induction a generalizing b with
  | nil =>
    cases b with
    | nil => exact ⟨rfl, (List.cons.inj h).2⟩
    | cons x b => exact absurd (List.cons.inj h).1 (fun hx => hb (hx ▸ List.mem_cons_self _ _))
  | cons x a ih =>
    cases b with
    | nil => exact absurd (List.cons.inj h).1.symm (fun hx => ha (hx ▸ List.mem_cons_self _ _))
    | cons y b =>
      obtain ⟨hxy, h⟩ := List.cons.inj h
      obtain ⟨hab, hrs⟩ := ih (fun hm => ha (List.mem_cons_of_mem _ hm)) (fun hm => hb (List.mem_cons_of_mem _ hm)) h
      exact ⟨by rw [hxy, hab], hrs⟩

/-- `equalFold` is reflexive. -/
@[simp] theorem equalFold_self (s : String) : equalFold s s = true := by
  simp [equalFold]

/-- `equalFold` is symmetric. -/
theorem equalFold_comm (s t : String) : equalFold s t = equalFold t s := by
  simp only [equalFold]
  exact Bool.eq_iff_iff.mpr (by simp only [beq_iff_eq]; exact eq_comm)

/-- `sortSort` permutes its input. -/
theorem sortSort_perm {α : Type} (less : α → α → Bool) (l : List α) : (Go.sortSort less l).Perm l :=
  List.perm_insertionSort _ l

/-- An element is in the sorted list exactly when it is in the list. -/
@[simp] theorem mem_sortSort {α : Type} {less : α → α → Bool} {l : List α} {a : α} :
    a ∈ Go.sortSort less l ↔ a ∈ l :=
  (sortSort_perm less l).mem_iff

/-- With a `Less` that is a strict weak order (asymmetric, and `c < a` puts `b` above `c` or below `a`), no element of
what `sortSort` returns is `Less` than one before it. -/
theorem sortSort_sorted {α : Type} {less : α → α → Bool} (hasymm : ∀ a b, less a b = true → less b a = false)
    (hneg : ∀ a b c, less c a = true → less c b = true ∨ less b a = true) (l : List α) :
    (Go.sortSort less l).Sorted fun a b => less b a = false := by
  haveI : IsTotal α fun a b => less b a = false :=
    ⟨fun a b => by
      cases h : less b a
      · exact .inl rfl
      · exact .inr (hasymm _ _ h)⟩
  haveI : IsTrans α fun a b => less b a = false :=
    ⟨fun a b c hab hbc => by
      cases h : less c a
      · rfl
      · rcases hneg a b c h with h' | h' <;> simp_all⟩
  exact List.sorted_insertionSort _ l

/-- Two lists that are permutations of each other sort to the same list, when `Less` is a strict weak order and
the elements of the first that it cannot tell apart are equal: the order the input came in does not show. -/
theorem sortSort_eq_of_perm {α : Type} {less : α → α → Bool} (hasymm : ∀ a b, less a b = true → less b a = false)
    (hneg : ∀ a b c, less c a = true → less c b = true ∨ less b a = true) {l₁ l₂ : List α} (hp : l₁.Perm l₂)
    (hanti : ∀ a ∈ l₁, ∀ b ∈ l₁, less a b = false → less b a = false → a = b) :
    Go.sortSort less l₁ = Go.sortSort less l₂ := by
  -- the order of the sort, made antisymmetric by the equality `hanti` gives on the elements
  let r : α → α → Prop := fun a b => less b a = false ∧ (less a b = false → a = b)
  haveI : IsAntisymm α r := ⟨fun _ _ h₁ h₂ => h₁.2 h₂.1⟩
  have hsorted : ∀ l : List α, l.Perm l₁ → (Go.sortSort less l).Sorted r := fun l hl =>
    (sortSort_sorted hasymm hneg l).imp_of_mem fun {a b} ha hb hab =>
      ⟨hab, fun hba => hanti a ((sortSort_perm less l).trans hl |>.subset ha) b
        ((sortSort_perm less l).trans hl |>.subset hb) hba hab⟩
  exact List.eq_of_perm_of_sorted (((sortSort_perm less l₁).trans hp).trans (sortSort_perm less l₂).symm)
    (hsorted l₁ (List.Perm.refl _)) (hsorted l₂ hp.symm)

/-! ### The order of strings -/

theorem lexLess_irrefl : ∀ l : List Char, lexLess l l = false
  | [] => rfl
  | _ :: l => by simp [lexLess, lexLess_irrefl l, Bool.eq_false_iff, Nat.blt_eq]

theorem lexLess_trans {a b c : List Char} (h₁ : lexLess a b = true) (h₂ : lexLess b c = true) :
    lexLess a c = true := by
  induction a generalizing b c with
  | nil => cases b <;> cases c <;> simp_all [lexLess]
  | cons x a ih =>
    cases b with
    | nil => simp [lexLess] at h₁
    | cons y b =>
      cases c with
      | nil => simp [lexLess] at h₂
      | cons z c =>
        simp only [lexLess, Bool.or_eq_true, Bool.and_eq_true, Nat.blt_eq, Nat.beq_eq] at h₁ h₂ ⊢
        rcases h₁ with h₁ | ⟨e₁, h₁⟩ <;> rcases h₂ with h₂ | ⟨e₂, h₂⟩
        · exact .inl (by omega)
        · exact .inl (by omega)
        · exact .inl (by omega)
        · exact .inr ⟨by omega, ih h₁ h₂⟩

/-- Two lists neither of which is below the other are equal: the order is total. -/
theorem lexLess_trichotomy {a b : List Char} (h₁ : lexLess a b = false) (h₂ : lexLess b a = false) : a = b := by
  induction a generalizing b with
  | nil => cases b with
    | nil => rfl
    | cons => simp [lexLess] at h₁
  | cons x a ih =>
    cases b with
    | nil => simp [lexLess] at h₂
    | cons y b =>
      simp only [lexLess, Bool.or_eq_false_iff, Bool.and_eq_false_iff] at h₁ h₂
      have hxy : x = y := by
        have hlt := And.intro h₁.1 h₂.1
        simp only [Bool.eq_false_iff, ne_eq, Nat.blt_eq] at hlt
        have h : x.toNat = y.toNat := by omega
        exact Char.ext (UInt32.eq_of_val_eq (Fin.ext h))
      subst hxy
      simp only [Nat.beq_refl, Bool.true_eq_false, false_or] at h₁ h₂
      rw [ih h₁.2 h₂.2]

theorem stringLess_irrefl (s : String) : stringLess s s = false := lexLess_irrefl _

theorem stringLess_trans {a b c : String} (h₁ : stringLess a b = true) (h₂ : stringLess b c = true) :
    stringLess a c = true :=
  lexLess_trans h₁ h₂

theorem stringLess_asymm {a b : String} (h : stringLess a b = true) : stringLess b a = false := by
  cases h' : stringLess b a
  · rfl
  · simpa [stringLess_irrefl] using stringLess_trans h h'

theorem stringLess_trichotomy {a b : String} (h₁ : stringLess a b = false) (h₂ : stringLess b a = false) : a = b :=
  String.ext (lexLess_trichotomy h₁ h₂)

end GoAux

end RancherLb
