import Swan.Control.Rekey

/-! # What a CP payload assigns

The decoder reads the attributes of a CFG_REPLY or CFG_SET one after the other. Here is what it
makes of them, from the attribute list as a whole: of several addresses or expiries the last one
counts, name servers add up, and a category is marked as present exactly if an attribute of it was
there (`cesDecodeAssignedCP_eq`). An address attribute without a value and an expiry that has not
four bytes belong to no category. -/

namespace Swan.Control

open Swan.Lib Swan.Wire Swan.Payload

/-! ### Categories -/

/-- What a CP payload can assign. -/
inductive Category where
  | v4Addr
  | v4DNS
  | v6Addr
  | v6DNS
  | expiry
  deriving DecidableEq, Repr

def attrCategory (attr : ConfigAttribute) : Option Category :=
  if attr.type = configAttrInternalIPv4Address then
    if attr.value.length = 0 then none else some .v4Addr
  else if attr.type = configAttrInternalIPv4DNS then some .v4DNS
  else if attr.type = configAttrInternalIPv6Address then
    if attr.value.length = 0 then none else some .v6Addr
  else if attr.type = configAttrInternalIPv6DNS then some .v6DNS
  else if attr.type = configAttrInternalAddressExpiry then
    if attr.value.length = 4 then some .expiry else none
  else none

/-- The values that a list of attributes has for a category, in order. -/
def attrValues (c : Category) (attrs : List ConfigAttribute) : List Bytes :=
  (attrs.filter fun attr => attrCategory attr = some c).map ConfigAttribute.value

def Carries (cp : ConfigPayload) (c : Category) : Prop := attrValues c cp.attributes ≠ []

instance (cp : ConfigPayload) (c : Category) : Decidable (Carries cp c) :=
  inferInstanceAs (Decidable (_ ≠ _))

def CesAssignedMask.has (m : CesAssignedMask) : Category → Bool
  | .v4Addr => m.v4Addr
  | .v4DNS => m.v4DNS
  | .v6Addr => m.v6Addr
  | .v6DNS => m.v6DNS
  | .expiry => m.expiry

/-- Two configurations have the same value in the category. -/
def AssignedConfig.Agree (x y : AssignedConfig) : Category → Prop
  | .v4Addr => x.internalIPv4 = y.internalIPv4
  | .v4DNS => x.dns4 = y.dns4
  | .v6Addr => x.internalIPv6 = y.internalIPv6 ∧ x.internalIPv6Prefix = y.internalIPv6Prefix
  | .v6DNS => x.dns6 = y.dns6
  | .expiry => x.addressExpirySeconds = y.addressExpirySeconds

theorem agree_mergeAssigned (prev incoming : AssignedConfig) (present : CesAssignedMask)
    (c : Category) : (mergeAssigned prev incoming present).Agree
      (if present.has c then incoming else prev) c := by
  cases c with
  | v4Addr => cases h : present.v4Addr <;> simp [AssignedConfig.Agree, mergeAssigned, CesAssignedMask.has, h]
  | v4DNS => cases h : present.v4DNS <;> simp [AssignedConfig.Agree, mergeAssigned, CesAssignedMask.has, h]
  | v6Addr => cases h : present.v6Addr <;> simp [AssignedConfig.Agree, mergeAssigned, CesAssignedMask.has, h]
  | v6DNS => cases h : present.v6DNS <;> simp [AssignedConfig.Agree, mergeAssigned, CesAssignedMask.has, h]
  | expiry => cases h : present.expiry <;> simp [AssignedConfig.Agree, mergeAssigned, CesAssignedMask.has, h]

/-! ### The decoder -/

/-- A configuration after the values of a list of attributes were added to it. -/
def assignedFrom (out : AssignedConfig) (attrs : List ConfigAttribute) : AssignedConfig where
  internalIPv4 := (attrValues .v4Addr attrs).getLast?.or out.internalIPv4
  internalIPv6 := ((attrValues .v6Addr attrs).getLast?.map (·.take 16)).or out.internalIPv6
  internalIPv6Prefix :=
    ((attrValues .v6Addr attrs).getLast?.map (·.getD 16 0)).getD out.internalIPv6Prefix
  dns4 := out.dns4 ++ attrValues .v4DNS attrs
  dns6 := out.dns6 ++ attrValues .v6DNS attrs
  addressExpirySeconds :=
    ((attrValues .expiry attrs).getLast?.map beUint32).getD out.addressExpirySeconds

theorem attrValues_cons (c : Category) (attr : ConfigAttribute) (attrs : List ConfigAttribute) :
    attrValues c (attr :: attrs) =
      if attrCategory attr = some c then attr.value :: attrValues c attrs
      else attrValues c attrs := by
  unfold attrValues
  rw [List.filter_cons]
  split_ifs <;> simp_all

variable {out : AssignedConfig} {mask : CesAssignedMask} {cp : ConfigPayload}

theorem decodeAssignedAttribute_ok {attr : ConfigAttribute} {out' : AssignedConfig}
    {mask' : CesAssignedMask} (h : decodeAssignedAttribute attr (out, mask) = .ok (out', mask')) :
    out' = assignedFrom out [attr] ∧
      ∀ c, mask'.has c = (mask.has c || decide (attrCategory attr = some c)) := by
  have hvalues : ∀ c, attrValues c [attr] = if attrCategory attr = some c then [attr.value] else [] :=
    fun c => attrValues_cons c attr []
  unfold decodeAssignedAttribute at h
  unfold assignedFrom
  simp only [hvalues]
  unfold attrCategory
  dsimp only at h
  split_ifs at h <;> simp only [Except.ok.injEq, Prod.mk.injEq] at h <;>
    obtain ⟨rfl, rfl⟩ := h <;> (refine ⟨by simp_all, fun c => ?_⟩) <;>
    cases c <;> simp_all [CesAssignedMask.has]

theorem assignedFrom_cons (out : AssignedConfig) (attr : ConfigAttribute)
    (attrs : List ConfigAttribute) :
    assignedFrom (assignedFrom out [attr]) attrs = assignedFrom out (attr :: attrs) := by
  have hone : ∀ c, attrValues c [attr] = if attrCategory attr = some c then [attr.value] else [] :=
    fun c => attrValues_cons c attr []
  unfold assignedFrom
  simp only [hone, attrValues_cons]
  cases attrCategory attr with
  | none => simp
  | some c => cases c <;> simp [List.getLast?_cons]

theorem decodeAssignedAttributes_ok : ∀ {attrs : List ConfigAttribute} {out out' : AssignedConfig}
    {mask mask' : CesAssignedMask},
    decodeAssignedAttributes attrs (out, mask) = .ok (out', mask') →
    out' = assignedFrom out attrs ∧
      ∀ c, mask'.has c = (mask.has c || decide (attrValues c attrs ≠ []))
  | [], out, out', mask, mask', h => by
    obtain ⟨rfl, rfl⟩ := Prod.mk.inj (Except.ok.inj h)
    simp [assignedFrom, attrValues]
  | attr :: attrs, out, out', mask, mask', h => by
    obtain ⟨⟨out₁, mask₁⟩, h₁, h⟩ := bind_eq_ok.mp h
    obtain ⟨rfl, hmask₁⟩ := decodeAssignedAttribute_ok h₁
    obtain ⟨rfl, hmask⟩ := decodeAssignedAttributes_ok h
    refine ⟨assignedFrom_cons out attr attrs, fun c => ?_⟩
    rw [hmask, hmask₁, attrValues_cons]
    by_cases hc : attrCategory attr = some c
    · simp [hc]
    · simp [hc]

/-- The configuration that the attributes of a payload stand for. -/
def assignedBy (cp : ConfigPayload) : AssignedConfig := assignedFrom noAssigned cp.attributes

/-- **What the decoder makes of a payload.** -/
theorem cesDecodeAssignedCP_eq (h : cesDecodeAssignedCP cp = .ok (out, mask)) :
    out = assignedBy cp ∧ ∀ c, mask.has c = decide (Carries cp c) := by
  obtain ⟨hout, hmask⟩ := decodeAssignedAttributes_ok h
  refine ⟨hout, fun c => ?_⟩
  rw [hmask]
  cases c <;> exact Bool.false_or _

theorem agree_noAssigned {c : Category} (h : ¬Carries cp c) :
    (assignedBy cp).Agree noAssigned c := by
  have hnil : attrValues c cp.attributes = [] := not_not.mp h
  cases c <;> simp [assignedBy, assignedFrom, AssignedConfig.Agree, noAssigned, hnil]

/-! ### Merging -/

theorem agree_updatedAssigned (h : cesDecodeAssignedCP cp = .ok (out, mask))
    (prev : Option AssignedConfig) (c : Category) :
    (updatedAssigned prev out mask .merge).Agree
      (if Carries cp c then assignedBy cp else prev.getD noAssigned) c := by
  obtain ⟨rfl, hmask⟩ := cesDecodeAssignedCP_eq h
  cases prev with
  | some prev =>
    have hagree := agree_mergeAssigned prev (assignedBy cp) mask c
    simp only [hmask, decide_eq_true_eq] at hagree
    exact hagree
  | none =>
    have hrefl : (assignedBy cp).Agree (assignedBy cp) c := by cases c <;> simp [AssignedConfig.Agree]
    split_ifs with hc
    · exact hrefl
    · exact agree_noAssigned hc

theorem isSome_internalIPv4 (h : Carries cp .v4Addr) :
    (assignedBy cp).internalIPv4.isSome := by
  simp [assignedBy, assignedFrom, List.getLast?_isSome.mpr h]

theorem isSome_internalIPv6 (h : Carries cp .v6Addr) :
    (assignedBy cp).internalIPv6.isSome := by
  simp [assignedBy, assignedFrom, List.getLast?_isSome.mpr h]

end Swan.Control
