import SessionBoard.Text.Base64
import Mathlib.Tactic.Common

namespace SessionBoard.Text.Base64

/-- The letters in the order of their values. -/
def alphabet : List Char :=
  "ABCDEFGHIJKLMNOPQRSTUVWXYZabcdefghijklmnopqrstuvwxyz0123456789+/".toList

def value? (char : Char) : Option Nat := alphabet.idxOf? char

/-- The number of these values, six bits each. -/
def join (values : List Nat) : Nat := values.foldl (· * 64 + ·) 0

/-- The number that some letters spell. -/
def number? (letters : List Char) : Option Nat := (letters.mapM value?).map join

/-- The octets of a group that is filled up. No bit may be set that belongs to no octet. -/
def decodeLast (a b c : Char) : Option (List UInt8) :=
  if c = '=' then do
    let number ← number? [a, b]
    if number % 16 = 0 then some [.ofNat (number / 16)] else none
  else do
    let number ← number? [a, b, c]
    if number % 4 = 0 then some [.ofNat (number / 1024), .ofNat (number / 4 % 256)] else none

/-- The octets that a text in base64 spells. It is filled up to a multiple of four, at its end only. -/
def decode? : List Char → Option (List UInt8)
  | [] => some []
  | a :: b :: c :: d :: rest =>
    if d = '=' then if rest = [] then decodeLast a b c else none
    else do
      let number ← number? [a, b, c, d]
      let octets ← decode? rest
      return .ofNat (number / 65536) :: .ofNat (number / 256 % 256) :: .ofNat (number % 256) :: octets
  | _ => none

theorem value?_letter : ∀ n < 64, value? (letter n) = some n := by
  decide

theorem letter_mem : ∀ n < 64, letter n ∈ alphabet := by
  decide

theorem letter_ne_sign : ∀ n < 64, letter n ≠ '=' := by
  decide

/-- Letters spell the number of their values. -/
theorem number?_letters (values : List Nat) {n : Nat} (small : ∀ value ∈ values, value < 64)
    (joined : join values = n) : number? (values.map letter) = some n := by
  have read : (values.map letter).mapM value? = some values := by
    clear joined
    induction values with
    | nil => rfl
    | cons value values ih =>
      obtain ⟨first, others⟩ := List.forall_mem_cons.mp small
      simp only [List.map_cons, List.mapM_cons, value?_letter value first, ih others, Option.pure_def,
        Option.bind_eq_bind, Option.bind_some]
  rw [number?, read, Option.map_some, joined]

theorem mem_alphabet_of_letters (values : List Nat) (small : ∀ value ∈ values, value < 64) :
    ∀ char ∈ values.map letter, char ∈ alphabet := by
  intro char member
  obtain ⟨value, inValues, rfl⟩ := List.mem_map.mp member
  exact letter_mem value (small value inValues)

/-- What is written is read as the octets it was written for. -/
theorem decode?_encode (octets : List UInt8) : decode? (encode octets) = some octets := by
  fun_induction encode octets with
  | case1 => rfl
  | case2 a n =>
    have small := a.toNat_lt
    have spelled : number? [letter (n / 64), letter (n % 64)] = some n :=
      number?_letters [n / 64, n % 64] (by simp; omega) (by simp only [join, List.foldl]; omega)
    have whole : n % 16 = 0 := by omega
    have octet : n / 16 = a.toNat := by omega
    simp [decode?, decodeLast, spelled, whole, octet]
  | case3 a b n =>
    have small := a.toNat_lt
    have small' := b.toNat_lt
    have spelled : number? [letter (n / 4096), letter (n / 64 % 64), letter (n % 64)] = some n :=
      number?_letters [n / 4096, n / 64 % 64, n % 64] (by simp; omega)
        (by simp only [join, List.foldl]; omega)
    have letter : letter (n % 64) ≠ '=' := letter_ne_sign _ (by omega)
    have whole : n % 4 = 0 := by omega
    have first : n / 1024 = a.toNat := by omega
    have second : n / 4 % 256 = b.toNat := by omega
    simp [decode?, decodeLast, letter, spelled, whole, first, second]
  | case4 a b c rest n ih =>
    have small := a.toNat_lt
    have small' := b.toNat_lt
    have small'' := c.toNat_lt
    have spelled : number? [letter (n / 262144), letter (n / 4096 % 64), letter (n / 64 % 64),
        letter (n % 64)] = some n :=
      number?_letters [n / 262144, n / 4096 % 64, n / 64 % 64, n % 64] (by simp; omega)
        (by simp only [join, List.foldl]; omega)
    have letter : letter (n % 64) ≠ '=' := letter_ne_sign _ (by omega)
    have first : n / 65536 = a.toNat := by omega
    have second : n / 256 % 256 = b.toNat := by omega
    have third : n % 256 = c.toNat := by omega
    simp [decode?, letter, spelled, ih, first, second, third]

theorem length_encode (octets : List UInt8) : (encode octets).length = 4 * ((octets.length + 2) / 3) := by
  fun_induction encode octets with
  | case1 => rfl
  | case2 | case3 => simp
  | case4 a b c rest n ih =>
    simp only [List.length_cons, ih]
    omega

/-- How many signs fill up the text of this many octets. -/
def signs (length : Nat) : Nat := (3 - length % 3) % 3

/-- The text is letters of the alphabet, and after them as many signs as fill it up. -/
theorem encode_eq_letters (octets : List UInt8) :
    ∃ letters, encode octets = letters ++ List.replicate (signs octets.length) '=' ∧
      ∀ char ∈ letters, char ∈ alphabet := by
  fun_induction encode octets with
  | case1 => exact ⟨[], rfl, by simp⟩
  | case2 a n =>
    have := a.toNat_lt
    exact ⟨_, rfl, mem_alphabet_of_letters [n / 64, n % 64] (by simp; omega)⟩
  | case3 a b n =>
    have := a.toNat_lt
    have := b.toNat_lt
    exact ⟨_, rfl, mem_alphabet_of_letters [n / 4096, n / 64 % 64, n % 64] (by simp; omega)⟩
  | case4 a b c rest n ih =>
    have := a.toNat_lt
    have := b.toNat_lt
    have := c.toNat_lt
    obtain ⟨letters, written, members⟩ := ih
    have four := mem_alphabet_of_letters [n / 262144, n / 4096 % 64, n / 64 % 64, n % 64] (by simp; omega)
    refine ⟨_ ++ letters, ?_, List.forall_mem_append.mpr ⟨four, members⟩⟩
    have same : signs (a :: b :: c :: rest).length = signs rest.length := by
      simp only [signs, List.length_cons]
      omega
    rw [written, same]
    rfl

end SessionBoard.Text.Base64
