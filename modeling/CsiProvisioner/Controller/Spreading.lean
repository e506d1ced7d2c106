import CsiProvisioner.Lib.GoStrings
import Mathlib.Data.Nat.ModEq

/-!
The spreading of StatefulSet volumes over topology terms (`getPVCNameHashAndIndexOffset` in
`pkg/controller/topology.go`).

In immediate binding `GenerateAccessibilityRequirements` rotates the sorted requisite terms by
`(hash + index) % n` for `n` terms. A StatefulSet names the claims of its replicas
`ClaimName-SetName-Id`; for such a name `index` is the replica's number and `hash` the FNV-1
hash of the part of `ClaimName-SetName` after its last dash, so that the claims of one replica
share a term and consecutive replicas go round the terms.

The sum is taken in 32-bit arithmetic. It wraps for large numbers, and then, unless `n`
divides `2 ^ 32`, two consecutive replicas get the same term.
-/

namespace CsiProvisioner.Controller.Topology

open Go

/-- The part of a name after its last dash, or the whole name when it has none. -/
def afterLastDash (s : List Char) : List Char :=
  match lastIndexByte s '-' with
  | some lastDash => s.drop (lastDash + 1)
  | none => s

/-- `getPVCNameHashAndIndexOffset`; `randUint32` is the value `rand.Uint32` draws for an
empty name. A name whose part after the last dash `ParseUint` reads as a 32-bit number
hashes the part of the rest after its last dash, and offsets by that number. -/
def getPVCNameHashAndIndexOffset (pvcName : String) (randUint32 : UInt32) : UInt32 × UInt32 :=
  if pvcName = "" then (randUint32, 0)
  else
    let name := pvcName.toList
    let (hashString, index) : List Char × UInt32 :=
      match lastIndexByte name '-' with
      | none => (name, 0)
      | some lastDash =>
        match parseUint (name.drop (lastDash + 1)) 32 with
        | none => (name, 0)
        | some statefulsetID => (afterLastDash (name.take lastDash), statefulsetID.toUInt32)
    (fnv32 (utf8Bytes hashString), index)

/-- The index of the sorted requisite term that comes first in immediate binding, for `n`
terms: `(hash + index) % uint32(n)`. -/
def spreadingIndex (pvcName : String) (randUint32 : UInt32) (n : Nat) : UInt32 :=
  let (hash, index) := getPVCNameHashAndIndexOffset pvcName randUint32
  (hash + index) % n.toUInt32

/-- The claim of the replica `id` of a StatefulSet, `base-id`. -/
def replicaName (base : List Char) (id : Nat) : String :=
  String.ofList (base ++ '-' :: Nat.toDigits 10 id)

def replicaHash (base : List Char) : UInt32 := fnv32 (utf8Bytes (afterLastDash base))

lemma spreadingIndex_lt (pvcName : String) (randUint32 : UInt32) {n : Nat} (hn : 0 < n) :
    (spreadingIndex pvcName randUint32 n).toNat < n := by
  rcases hsplit : getPVCNameHashAndIndexOffset pvcName randUint32 with ⟨hash, index⟩
  simp only [spreadingIndex, hsplit]
  rw [UInt32.toNat_mod, UInt32.toNat_ofNat']
  by_cases hwrap : n % 2 ^ 32 = 0
  · -- `uint32(n)` is zero only for `n` of at least `2 ^ 32`
    have hlarge : 2 ^ 32 ≤ n := Nat.le_of_dvd hn (Nat.dvd_of_mod_eq_zero hwrap)
    rw [hwrap, Nat.mod_zero]
    exact lt_of_lt_of_le (UInt32.toNat_lt _) hlarge
  · exact lt_of_lt_of_le (Nat.mod_lt _ (Nat.pos_of_ne_zero hwrap)) (Nat.mod_le _ _)

/-! ### The hash and the index of a replica -/

lemma afterLastDash_append_cons (c s : List Char) :
    afterLastDash (c ++ '-' :: s) = afterLastDash ('-' :: s) := by
  obtain ⟨i, hi⟩ : ∃ i, lastIndexByte ('-' :: s) '-' = some i := by
    cases h : lastIndexByte s '-' <;> simp [lastIndexByte, h]
  have hdrop : (c ++ '-' :: s).drop (c.length + i + 1) = ('-' :: s).drop (i + 1) := by
    rw [Nat.add_assoc]
    exact List.drop_length_add_append (i + 1)
  rw [afterLastDash, afterLastDash, lastIndexByte_append, hi]
  exact hdrop

lemma dash_not_mem_toDigits (id : Nat) : '-' ∉ Nat.toDigits 10 id := fun h =>
  absurd (Nat.isDigit_of_mem_toDigits (by decide) (by decide) h) (by decide)

lemma replicaName_ne_empty (base : List Char) (id : Nat) : replicaName base id ≠ "" := by
  intro h
  have hlist := congrArg String.toList h
  simp [replicaName] at hlist

lemma getPVCNameHashAndIndexOffset_replicaName (base : List Char) {id : Nat} (hid : id < 2 ^ 32)
    (randUint32 : UInt32) :
    getPVCNameHashAndIndexOffset (replicaName base id) randUint32 = (replicaHash base, id.toUInt32) := by
  have hlast : lastIndexByte (base ++ '-' :: Nat.toDigits 10 id) '-' = some base.length :=
    lastIndexByte_append_cons (dash_not_mem_toDigits id)
  have hdigits : (base ++ '-' :: Nat.toDigits 10 id).drop (base.length + 1) = Nat.toDigits 10 id := by
    simp
  have hbase : (base ++ '-' :: Nat.toDigits 10 id).take base.length = base := by simp
  rw [getPVCNameHashAndIndexOffset, if_neg (replicaName_ne_empty base id)]
  simp only [replicaName, String.toList_ofList, hlast, hdigits, parseUint_toDigits hid, hbase]
  rfl

/-- **The claims of a StatefulSet's replica share a term**: the index does not depend on the
claim's name in `ClaimName-SetName-Id`. -/
lemma getPVCNameHashAndIndexOffset_claimName (claimName₁ claimName₂ setName : List Char)
    {id : Nat} (hid : id < 2 ^ 32) (randUint32 : UInt32) :
    getPVCNameHashAndIndexOffset (replicaName (claimName₁ ++ '-' :: setName) id) randUint32 =
      getPVCNameHashAndIndexOffset (replicaName (claimName₂ ++ '-' :: setName) id) randUint32 := by
  rw [getPVCNameHashAndIndexOffset_replicaName _ hid, getPVCNameHashAndIndexOffset_replicaName _ hid,
    replicaHash, replicaHash, afterLastDash_append_cons, afterLastDash_append_cons]

lemma spreadingIndex_replicaName (base : List Char) {id : Nat} (hid : id < 2 ^ 32)
    (randUint32 : UInt32) {n : Nat} (hn : n < 2 ^ 32) :
    (spreadingIndex (replicaName base id) randUint32 n).toNat =
      ((replicaHash base).toNat + id) % 2 ^ 32 % n := by
  simp only [spreadingIndex, getPVCNameHashAndIndexOffset_replicaName base hid]
  rw [UInt32.toNat_mod, UInt32.toNat_add, UInt32.toNat_ofNat', UInt32.toNat_ofNat',
    Nat.mod_eq_of_lt hid, Nat.mod_eq_of_lt hn]

/-! ### Round robin, and where it breaks -/

/-- **Consecutive replicas go round the terms** as long as the 32-bit sum does not wrap:
`n` consecutive replicas get `n` distinct terms. -/
theorem spreadingIndex_injOn_window (base : List Char) (randUint32 : UInt32) {n k i j : Nat}
    (hn : n < 2 ^ 32) (hi : i < n) (hj : j < n)
    (hwrap : (replicaHash base).toNat + k + n ≤ 2 ^ 32)
    (heq : spreadingIndex (replicaName base (k + i)) randUint32 n =
      spreadingIndex (replicaName base (k + j)) randUint32 n) : i = j := by
  have hki : k + i < 2 ^ 32 := by omega
  have hkj : k + j < 2 ^ 32 := by omega
  have hnat := congrArg UInt32.toNat heq
  rw [spreadingIndex_replicaName base hki randUint32 hn,
    spreadingIndex_replicaName base hkj randUint32 hn] at hnat
  have hsum_i : ((replicaHash base).toNat + (k + i)) % 2 ^ 32 = (replicaHash base).toNat + k + i := by
    rw [Nat.mod_eq_of_lt (by omega)]
    omega
  have hsum_j : ((replicaHash base).toNat + (k + j)) % 2 ^ 32 = (replicaHash base).toNat + k + j := by
    rw [Nat.mod_eq_of_lt (by omega)]
    omega
  rw [hsum_i, hsum_j] at hnat
  -- two numbers of one window of `n` with the same remainder are equal
  have hmod : i % n = j % n := Nat.ModEq.add_left_cancel' ((replicaHash base).toNat + k) hnat
  rwa [Nat.mod_eq_of_lt hi, Nat.mod_eq_of_lt hj] at hmod

theorem spreadingIndex_injOn_window_web :
    (replicaHash "www-web".toList).toNat + 3113870968 + 3 = 2 ^ 32 ∧
      spreadingIndex (replicaName "www-web".toList (3113870968 + 0)) 0 3 ≠
        spreadingIndex (replicaName "www-web".toList (3113870968 + 1)) 0 3 ∧
      spreadingIndex (replicaName "www-web".toList (3113870968 + 0)) 0 3 ≠
        spreadingIndex (replicaName "www-web".toList (3113870968 + 2)) 0 3 ∧
      spreadingIndex (replicaName "www-web".toList (3113870968 + 1)) 0 3 ≠
        spreadingIndex (replicaName "www-web".toList (3113870968 + 2)) 0 3 := by
  have htight : (replicaHash "www-web".toList).toNat + 3113870968 + 3 = 2 ^ 32 := by decide
  refine ⟨htight, fun heq => ?_, fun heq => ?_, fun heq => ?_⟩
  · exact absurd (spreadingIndex_injOn_window "www-web".toList 0 (by decide) (by decide)
      (by decide) htight.le heq) (by decide)
  · exact absurd (spreadingIndex_injOn_window "www-web".toList 0 (by decide) (by decide)
      (by decide) htight.le heq) (by decide)
  · exact absurd (spreadingIndex_injOn_window "www-web".toList 0 (by decide) (by decide)
      (by decide) htight.le heq) (by decide)

/-- **Two consecutive replicas of three get the same term** where the 32-bit sum wraps: for
every StatefulSet whose hash is not zero, some three consecutive replicas, all with numbers
`ParseUint` accepts, do not go to three distinct terms. -/
theorem spreadingIndex_repeats {base : List Char} (hhash : replicaHash base ≠ 0)
    (randUint32 : UInt32) :
    ∃ k, k + 2 < 2 ^ 32 ∧ ∃ a b, a < b ∧ b ≤ 2 ∧
      spreadingIndex (replicaName base (k + a)) randUint32 3 =
        spreadingIndex (replicaName base (k + b)) randUint32 3 := by
  have hpos : 0 < (replicaHash base).toNat := by
    rw [Nat.pos_iff_ne_zero, ne_eq, ← UInt32.toNat_zero, UInt32.toNat_inj]
    exact hhash
  have hlt : (replicaHash base).toNat < 2 ^ 32 := UInt32.toNat_lt _
  -- the index of each replica, from its number
  have hindex : ∀ id < 2 ^ 32, (spreadingIndex (replicaName base id) randUint32 3).toNat =
      ((replicaHash base).toNat + id) % 2 ^ 32 % 3 :=
    fun id hid => spreadingIndex_replicaName base hid randUint32 (by decide)
  by_cases htop : (replicaHash base).toNat = 2 ^ 32 - 1
  · -- the sum wraps between the replicas `0` and `1`
    refine ⟨0, by decide, 0, 1, by decide, by decide, UInt32.toNat_inj.mp ?_⟩
    rw [hindex _ (by decide), hindex _ (by decide)]
    omega
  · -- the sum wraps between the replicas `k + 1` and `k + 2`
    refine ⟨2 ^ 32 - 2 - (replicaHash base).toNat, by omega, 1, 2, by decide, le_refl 2,
      UInt32.toNat_inj.mp ?_⟩
    rw [hindex _ (by omega), hindex _ (by omega)]
    omega

theorem spreadingIndex_repeats_web :
    replicaHash "www-web".toList ≠ 0 ∧
      ∃ k, k + 2 < 2 ^ 32 ∧ ∃ a b, a < b ∧ b ≤ 2 ∧
        spreadingIndex (replicaName "www-web".toList (k + a)) 0 3 =
          spreadingIndex (replicaName "www-web".toList (k + b)) 0 3 :=
  have hhash : replicaHash "www-web".toList ≠ 0 := by decide
  ⟨hhash, spreadingIndex_repeats hhash 0⟩

end CsiProvisioner.Controller.Topology
