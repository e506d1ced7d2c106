import CsiProvisioner.Lib.GoStrings
import CsiProvisioner.Api.Validation

/-!
Names cut to a maximum length (`getNameWithMaxLength` in `cmd/csi-provisioner/util.go`), and
the value of the managed-by label that a provisioner running on each node puts on its
CSIStorageCapacity objects: `external-provisioner-<node>`, cut to a DNS label.

Go strings are sequences of bytes, and `len` and slicing count bytes: the model takes base and
suffix as their bytes, so that a cut in the middle of a character is what Go does too. A slice
out of range panics, which the model returns as `none`. `int` is modelled as `Int`: the
lengths of strings are far below the bounds of a 64-bit integer.

When the joined name is too long, `getNameWithMaxLength` keeps the start of the base and adds
an 8-character FNV-1a hash, of the base when it keeps the suffix, of the whole name when the
suffix alone leaves no room.
-/

namespace CsiProvisioner.Cmd

open Go Api.Validation

/-- `fmt.Sprintf("%s-%s", a, b)`. -/
def joinDash (a b : List UInt8) : List UInt8 := a ++ utf8Bytes ['-'] ++ b

/-- `hash`: the FNV-1a hash of the bytes, as eight hexadecimal digits (`%08x`). -/
def hash (s : List UInt8) : List UInt8 := utf8Bytes (formatHex 8 (fnv32a s).toNat)

/-- `max` of `util.go`. -/
def max (a b : Int) : Int := if b > a then b else a

/-- `min` of `util.go`. -/
def min (a b : Int) : Int := if b < a then b else a

/-- `getNameWithMaxLength`: `base-suffix` when it fits, otherwise the start of the base with
a hash, and the suffix when there is room for it. -/
def getNameWithMaxLength (base suffix : List UInt8) (maxLength : Int) : Option (List UInt8) :=
  let name := joinDash base suffix
  if (name.length : Int) ≤ maxLength then some name
  else
    let baseLength := maxLength - 10 - suffix.length
    -- if the suffix is too long, ignore it
    if baseLength < 0 then do
      let start ← sliceBytes base 0 (min base.length (max 0 (maxLength - 9)))
      let shortName := joinDash start (hash name)
      sliceBytes shortName 0 (min maxLength shortName.length)
    else do
      let start ← sliceBytes base 0 baseLength
      some (joinDash (joinDash start (hash base)) suffix)

/-- `managedByID` of `main`: the value of the managed-by label, with the node's name when the
provisioner runs on each node. -/
def managedByID (enableNodeDeployment : Bool) (node : List UInt8) : Option (List UInt8) :=
  let managedByID := utf8Bytes "external-provisioner".toList
  if enableNodeDeployment then getNameWithMaxLength managedByID node DNS1035LabelMaxLength
  else some managedByID

/-! ### Lengths -/

@[simp] lemma length_joinDash (a b : List UInt8) :
    (joinDash a b).length = a.length + 1 + b.length := by
  have hdash : (utf8Bytes ['-']).length = 1 := rfl
  simp only [joinDash, List.length_append, hdash]

@[simp] lemma length_hash (s : List UInt8) : (hash s).length = 8 :=
  length_formatHex (by decide) (fnv32a s).toNat_lt

lemma min_eq (a b : Int) : min a b = Min.min a b := by
  unfold min
  split_ifs <;> omega

lemma max_eq (a b : Int) : max a b = Max.max a b := by
  unfold max
  split_ifs <;> omega

/-! ### The three branches -/

section Branches

variable {base suffix : List UInt8} {maxLength : Int}

lemma getNameWithMaxLength_of_fits (h : ((joinDash base suffix).length : Int) ≤ maxLength) :
    getNameWithMaxLength base suffix maxLength = some (joinDash base suffix) := by
  unfold getNameWithMaxLength
  exact if_pos h

lemma getNameWithMaxLength_of_room
    (hlong : maxLength < ((joinDash base suffix).length : Int))
    (hroom : 0 ≤ maxLength - 10 - suffix.length) :
    getNameWithMaxLength base suffix maxLength =
      some (joinDash (joinDash (base.take (maxLength - 10 - suffix.length).toNat) (hash base))
        suffix) := by
  have hcut : maxLength - 10 - suffix.length ≤ base.length := by
    rw [length_joinDash] at hlong
    omega
  unfold getNameWithMaxLength
  dsimp only
  rw [if_neg (not_le.mpr hlong), if_neg (not_lt.mpr hroom), sliceBytes_zero hroom hcut]
  rfl

lemma getNameWithMaxLength_of_no_room (hmax : 0 ≤ maxLength)
    (hlong : maxLength < ((joinDash base suffix).length : Int))
    (hroom : maxLength - 10 - suffix.length < 0) :
    ∃ name, getNameWithMaxLength base suffix maxLength = some name ∧
      (name.length : Int) ≤ maxLength := by
  -- the cut of the base is clamped to the base and to the room left by the hash
  set cut := min base.length (max 0 (maxLength - 9)) with hcut
  have hcut0 : 0 ≤ cut := by
    rw [hcut, min_eq, max_eq]
    omega
  have hcutLen : cut ≤ base.length := by
    rw [hcut, min_eq]
    omega
  set shortName := joinDash (base.take cut.toNat) (hash (joinDash base suffix))
  have hshort : (shortName.length : Int) = cut + 9 := by
    simp only [shortName, length_joinDash, length_hash, List.length_take]
    omega
  have hend0 : 0 ≤ min maxLength shortName.length := by
    rw [min_eq]
    omega
  have hendLen : min maxLength shortName.length ≤ shortName.length := by
    rw [min_eq]
    omega
  refine ⟨shortName.take (min maxLength shortName.length).toNat, ?_, ?_⟩
  · unfold getNameWithMaxLength
    dsimp only
    rw [if_neg (not_le.mpr hlong), if_pos hroom, ← hcut, sliceBytes_zero hcut0 hcutLen]
    exact sliceBytes_zero hend0 hendLen
  · rw [List.length_take, min_eq] at *
    omega

end Branches

/-- **`getNameWithMaxLength` does not panic** for a bound `maxLength ≥ 0`, and keeps to it. -/
lemma exists_getNameWithMaxLength (base suffix : List UInt8) (maxLength : Nat) :
    ∃ name, getNameWithMaxLength base suffix maxLength = some name ∧ name.length ≤ maxLength := by
  by_cases hfits : ((joinDash base suffix).length : Int) ≤ maxLength
  · exact ⟨_, getNameWithMaxLength_of_fits hfits, by omega⟩
  have hlong := not_le.mp hfits
  by_cases hroom : 0 ≤ (maxLength : Int) - 10 - suffix.length
  · refine ⟨_, getNameWithMaxLength_of_room hlong hroom, ?_⟩
    simp only [length_joinDash, length_hash, List.length_take]
    omega
  · obtain ⟨name, hname, hlen⟩ :=
      getNameWithMaxLength_of_no_room (Int.natCast_nonneg _) hlong (not_le.mp hroom)
    exact ⟨name, hname, by omega⟩

/-- **`getNameWithMaxLength` respects its bound**, for every bound `maxLength ≥ 0`: it
slices within range and returns at most `maxLength` bytes; `base-suffix` when that fits; and
when it does not but there is room for the suffix and the hash, exactly `maxLength` bytes
that end with `-suffix`. The managed-by label of a provisioner on each node is therefore a
label value of at most 63 bytes. -/
theorem getNameWithMaxLength_respects_bound :
    (∀ (base suffix : List UInt8) (maxLength : Nat),
      ∃ name, getNameWithMaxLength base suffix maxLength = some name ∧
        name.length ≤ maxLength ∧
        ((joinDash base suffix).length ≤ maxLength → name = joinDash base suffix) ∧
        (maxLength < (joinDash base suffix).length → 10 + suffix.length ≤ maxLength →
          name.length = maxLength ∧ utf8Bytes ['-'] ++ suffix <:+ name)) ∧
    ∀ (enableNodeDeployment : Bool) (node : List UInt8),
      ∃ managedBy, managedByID enableNodeDeployment node = some managedBy ∧
        managedBy.length ≤ DNS1035LabelMaxLength := by
  refine ⟨fun base suffix maxLength => ?_, fun enableNodeDeployment node => ?_⟩
  · obtain ⟨name, hname, hlen⟩ := exists_getNameWithMaxLength base suffix maxLength
    refine ⟨name, hname, hlen, fun hfits => ?_, fun hlong hroom => ?_⟩
    · rw [getNameWithMaxLength_of_fits (by exact_mod_cast hfits)] at hname
      exact (Option.some.inj hname).symm
    · -- the start of the base, the hash of the base, and the suffix
      rw [getNameWithMaxLength_of_room (by exact_mod_cast hlong) (by omega)] at hname
      cases hname
      refine ⟨?_, ?_⟩
      · simp only [length_joinDash, length_hash, List.length_take] at hlong ⊢
        omega
      · rw [joinDash, List.append_assoc]
        exact List.suffix_append _ _
  · cases enableNodeDeployment with
    | false => exact ⟨_, rfl, by decide⟩
    | true => exact exists_getNameWithMaxLength _ node DNS1035LabelMaxLength

/-- A node name one byte too long: the start of `external-provisioner`, the hash of it, and
the node's name. -/
example : getNameWithMaxLength (utf8Bytes "external-provisioner".toList)
    (utf8Bytes ("node".toList ++ List.replicate 39 'a')) 63 =
      some (utf8Bytes ("external-p-53f40b57-node".toList ++ List.replicate 39 'a')) := by
  decide

end CsiProvisioner.Cmd
