import NhaTrangLaundry.Lib.Hashing
import Mathlib.Tactic.Common

/-! SHA-256 with every word of the schedule and of the state computed before it is used. -/

namespace NhaTrangLaundry.Lib.Hashing

open Text

variable {α : Type}

def force (n : Nat) (k : Nat → α) : α :=
  match n with
  | 0 => k 0
  | m + 1 => k (m + 1)

lemma force_eq (n : Nat) (k : Nat → α) : force n k = k n := by
  cases n <;> rfl

def forceState (s : State256) (k : State256 → α) : α :=
  force s.a fun a => force s.b fun b => force s.c fun c => force s.d fun d =>
    force s.e fun e => force s.f fun f => force s.g fun g => force s.h fun h =>
      k ⟨a, b, c, d, e, f, g, h⟩

lemma forceState_eq (s : State256) (k : State256 → α) : forceState s k = k s := by
  simp only [forceState, force_eq]

def scheduleWords (next : List Nat → Nat) : Nat → List Nat → List Nat
  | 0, ws => ws
  | k + 1, ws => force (next ws) fun w => scheduleWords next k (w :: ws)

lemma scheduleWords_eq (next : List Nat → Nat) (k : Nat) (ws : List Nat) :
    scheduleWords next k ws = schedule next k ws := by
  induction k generalizing ws with
  | zero => rfl
  | succ k ih => rw [scheduleWords, force_eq, ih, schedule]

def foldWords {β : Type} (step : State256 → β → State256) : List β → State256 → State256
  | [], s => s
  | x :: xs, s => forceState (step s x) fun t => foldWords step xs t

lemma foldWords_eq {β : Type} (step : State256 → β → State256) (xs : List β) (s : State256) :
    foldWords step xs s = xs.foldl step s := by
  induction xs generalizing s with
  | nil => rfl
  | cons x xs ih => rw [foldWords, forceState_eq, ih, List.foldl_cons]

def compressWords (s : State256) (block : List Nat) : State256 :=
  let t := foldWords round256
    (constants256.zip (scheduleWords nextWord256 48 block.reverse).reverse) s
  ⟨add s.a t.a, add s.b t.b, add s.c t.c, add s.d t.d, add s.e t.e, add s.f t.f, add s.g t.g,
    add s.h t.h⟩

lemma compressWords_eq : compressWords = compress256 := by
  funext s block
  rw [compressWords, compress256, scheduleWords_eq, foldWords_eq]

def digestWords (bs : List Nat) : List Nat :=
  let m := padMessage bs
  let t := foldWords compressWords (blocks (m.length / 64) m) initial256
  [t.a, t.b, t.c, t.d, t.e, t.f, t.g, t.h]

lemma digestWords_eq (bs : List Nat) : digestWords bs = digest256 bs := by
  rw [digestWords, digest256, foldWords_eq, compressWords_eq]

def digestChars (cs : List Char) : List Char :=
  (digestWords (cs.flatMap utf8)).flatMap (padded 16 8)

lemma sha256_ofList (cs : List Char) :
    sha256 (String.ofList cs) = String.ofList (digestChars cs) := by
  rw [sha256, encode, String.toList_ofList, ← digestWords_eq, hexdigest, digestChars]

end NhaTrangLaundry.Lib.Hashing
