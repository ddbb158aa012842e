/-
This file says what an action can do to the list of services: some services are taken from it,
the others stay in their order, and services that did not exist are put at the end. What a
service was made with stays as it is. So no service comes back to the list, and the first service
of some kind stays the first of its kind as long as it is listed.
-/

import Mathlib.Data.List.Find
import NetManager.Conn.WellFormed

namespace NetManager

open Library

namespace Registry

/-- The list of services kept its order and gained new services only, at its end. -/
structure KeepsOrder (before after : Registry) : Prop where
  listed : ∃ kept added, after.netServices = kept ++ added ∧ kept.Sublist before.netServices ∧
    ∀ service ∈ added, ¬ before.identities.services.Allocated service
  services : ∀ service, before.identities.services.Allocated service →
    after.identities.services.Allocated service ∧ after.service service = before.service service

namespace KeepsOrder

variable {first second third before after registry : Registry}

/-- Deletions keep the order. -/
theorem of_sublist (identities : after.identities = before.identities)
    (sublist : after.netServices.Sublist before.netServices) : before.KeepsOrder after := by
  refine ⟨⟨after.netServices, [], (List.append_nil _).symm, sublist, ?_⟩, ?_⟩
  · exact List.forall_mem_nil _
  · intro service allocated
    unfold Registry.service
    rw [identities]
    exact ⟨allocated, rfl⟩

theorem refl (registry : Registry) : registry.KeepsOrder registry :=
  of_sublist rfl (List.Sublist.refl _)

theorem trans (earlier : first.KeepsOrder second) (later : second.KeepsOrder third) :
    first.KeepsOrder third := by
  obtain ⟨kept, added, list, sublist, fresh⟩ := earlier.listed
  obtain ⟨stillKept, addedLater, listLater, sublistLater, freshLater⟩ := later.listed
  rw [list] at sublistLater
  obtain ⟨old, new, split, oldKept, newKept⟩ := List.sublist_append_iff.mp sublistLater
  refine ⟨⟨old, new ++ addedLater, ?_, oldKept.trans sublist, ?_⟩, fun service allocated => ?_⟩
  · rw [listLater, split, List.append_assoc]
  · intro service listed allocated
    rcases List.mem_append.mp listed with inNew | inLater
    · exact fresh service (newKept.subset inNew) allocated
    · exact freshLater service inLater (earlier.services service allocated).1
  · obtain ⟨middle, same⟩ := earlier.services service allocated
    obtain ⟨last, stillSame⟩ := later.services service middle
    exact ⟨last, stillSame.trans same⟩

theorem addService (registry : Registry) (ident : String) (type : NetworkType)
    (netCapability : NetCapabilities) (network : Ref Network) :
    registry.KeepsOrder (registry.addService ident type netCapability network) := by
  refine ⟨⟨registry.netServices, [registry.identities.services.fresh], rfl,
    List.Sublist.refl _, ?_⟩, fun service allocated => ?_⟩
  · exact List.forall_mem_singleton.mpr (Nat.lt_irrefl _)
  · exact ⟨registry.identities.services.allocated_alloc _ allocated,
      service_addService registry ident type netCapability network allocated⟩

theorem createServices (registry : Registry) (ident : String) (type : NetworkType)
    (netCapabilities : UInt64) (network : Ref Network) :
    registry.KeepsOrder (registry.createServices ident type netCapabilities network) := by
  have internet : registry.KeepsOrder (registry.addDefaultService ident type network) := by
    obtain ⟨listed, services⟩ := addService registry ident type .internet network
    exact ⟨listed, services⟩
  exact createServices_keeps (refl registry) ident type netCapabilities network
    (fun _ => internet) fun _ kept => kept.trans (addService _ ident type .mms network)

theorem updateCapability (registry : Registry) (ident : String) (type : NetworkType)
    (network : Ref Network) (netCapability : NetCapabilities) (netCapabilities : UInt64) :
    registry.KeepsOrder
      (registry.updateCapability ident type network netCapability netCapabilities) := by
  unfold Registry.updateCapability
  dsimp only
  split
  · split
    · exact refl registry
    · exact addService registry ident type netCapability network
  · split
    · exact of_sublist rfl List.eraseP_sublist
    · exact refl registry

/-- A service that existed and is listed now was listed before. -/
theorem mem_of_mem (keeps : before.KeepsOrder after) {service : Ref NetService}
    (allocated : before.identities.services.Allocated service)
    (listed : service ∈ after.netServices) : service ∈ before.netServices := by
  obtain ⟨kept, added, list, sublist, fresh⟩ := keeps.listed
  rw [list] at listed
  rcases List.mem_append.mp listed with old | new
  · exact sublist.subset old
  · exact absurd allocated (fresh service new)

/-- The first service of a kind stays the first one while it is listed. -/
theorem find? (keeps : before.KeepsOrder after) (wellFormed : before.WellFormed)
    (kind : ServiceIdentity → Bool) {found : Ref NetService}
    (search : before.netServices.find? (fun service => kind (before.service service)) = some found)
    (listed : found ∈ after.netServices) :
    after.netServices.find? (fun service => kind (after.service service)) = some found := by
  obtain ⟨kept, added, list, sublist, fresh⟩ := keeps.listed
  have allocated := wellFormed.services found (List.mem_of_find?_eq_some search)
  have stays : found ∈ kept := by
    rw [list] at listed
    exact (List.mem_append.mp listed).resolve_right fun new => fresh found new allocated
  have same : kept.find? (fun service => kind (after.service service)) =
      kept.find? (fun service => kind (before.service service)) := by
    refine List.find?_congr fun service member => ?_
    rw [(keeps.services service (wellFormed.services service (sublist.subset member))).2]
  rw [list, List.find?_append, same,
    find?_sublist sublist wellFormed.netServices_nodup search stays]
  rfl

end KeepsOrder

/-- Every action keeps the order of the services. -/
theorem step_keepsOrder (registry : Registry) (action : NetConnService.Action) :
    registry.KeepsOrder (registry.step action) := by
  cases action with
  | registerNetSupplier netType ident netCapabilities =>
    show registry.KeepsOrder (registry.register netType ident netCapabilities)
    unfold Registry.register
    split
    · exact .refl registry
    · split
      · exact .refl registry
      · obtain ⟨listed, services⟩ := KeepsOrder.createServices
          (registry.enroll (NetworkType.ofCode netType) ident) ident (NetworkType.ofCode netType)
          netCapabilities registry.identities.networks.fresh
        exact ⟨listed, services⟩
  | unregisterNetSupplier supplierId =>
    show registry.KeepsOrder (registry.unregister supplierId)
    unfold Registry.unregister
    split
    · exact .refl registry
    · split
      · exact .of_sublist rfl (List.Sublist.refl _)
      · exact .of_sublist rfl List.filter_sublist
  | updateNetCapabilities supplierId netCapabilities =>
    show registry.KeepsOrder (registry.updateCapabilities supplierId netCapabilities)
    unfold Registry.updateCapabilities
    split
    · exact .refl registry
    · exact (KeepsOrder.updateCapability registry _ _ _ .internet netCapabilities).trans
        (.updateCapability _ _ _ _ .mms netCapabilities)
  | _ => exact .refl registry

end Registry

end NetManager
