import Ricoq.Boot.Correctness.Step

/-!
# `Boot.Correctness.CSpace` — what `CSpace.create` makes

One CNode in the next slot. Each delegation is minted at its own destination, so the CNode ends up with
exactly the delegations: `populate` says what one mint does to its slots, and the validated destinations are
pairwise distinct.
-/

namespace Ricoq

open Sel4 Bootstrap

variable (h : Host) {T : Nat → Prop} {s s' s₁ s₂ : BootState}

namespace CSpace

/-- The slots of a CNode after one more delegation, given the root CNode. -/
def populate (root : Nat → Option Cap) (slots : Nat → Option Cap) (c : DelegatedCapability) :
    Nat → Option Cap :=
  Function.update slots c.destination ((root c.source).map (·.mint c.rights c.badge))

/-- Installing a delegation into the CNode `object` of `2 ^ sizeBits` slots. -/
theorem install_builds {cspace : CSpace} {object : Nat} {b : ObjectBlueprint} {slots : Nat → Option Cap}
    (hholds : Holds cspace.root object b s)
    (hobject : s.kernel.objects object = .cnode ⟨cspace.sizeBits, slots⟩) (hT : T object)
    {c : DelegatedCapability} (hc : c.destination < 2 ^ cspace.sizeBits) :
    Builds T (install h cspace c) s fun cspace' s' =>
      cspace'.root = cspace.root ∧ cspace'.sizeBits = cspace.sizeBits ∧
      s'.slots.start = s.slots.start ∧ s'.kernel.root = s.kernel.root ∧
      s'.kernel.nextObject = s.kernel.nextObject ∧ (s.kernel.root c.source).isSome ∧
      s'.kernel.objects object = .cnode ⟨cspace.sizeBits, populate s.kernel.root slots c⟩ := by
  unfold install
  refine Builds.bind_same (D := fun _ s' => s'.slots = s.slots ∧ s'.kernel.root = s.kernel.root ∧
      s'.kernel.nextObject = s.kernel.nextObject ∧ (s.kernel.root c.source).isSome ∧
      s'.kernel.objects object = .cnode ⟨cspace.sizeBits, populate s.kernel.root slots c⟩) ?_ ?_
  · refine kernelOp_builds h (by nofun) _ ?_
    intro k log heffect
    obtain ⟨cap, object', cnode, destination, hsource, hcnode, hresolve, rfl⟩ :=
      ObjectStore.effect_mint heffect
    obtain ⟨cap', hcap', hobject', hcontents⟩ := ObjectStore.cnodeAt_eq_ok.mp hcnode
    rw [hholds.object_eq hcap'] at hobject'
    subst hobject'
    obtain rfl := Object.cnode.inj (hcontents.symm.trans hobject)
    -- the index is below the number of slots, so it resolves to itself
    have hdest : destination = c.destination := by
      rw [ObjectStore.resolve_unguarded hc] at hresolve
      exact (Except.ok.inj hresolve).symm
    subst hdest
    refine ⟨Extends.of_object rfl rfl rfl rfl (Or.inl hT), rfl, rfl, rfl, ?_, ?_⟩
    · rw [hsource]
      rfl
    · show Function.update s.kernel.objects object _ object = _
      rw [Function.update_self, populate, hsource]
      rfl
  · rintro - s' - ⟨hslots, hrest⟩
    cases cspace.slots.markOccupied c.destination with
    | ok slots' => exact Builds.pure ⟨rfl, rfl, by rw [hslots], hrest⟩
    | error e => exact Builds.throw

/-- Installing a list of delegations, in order. -/
theorem foldlM_install_builds {cspace : CSpace} {object : Nat} {b : ObjectBlueprint} {slots : Nat → Option Cap}
    (hholds : Holds cspace.root object b s)
    (hobject : s.kernel.objects object = .cnode ⟨cspace.sizeBits, slots⟩) (hT : T object)
    {cs : List DelegatedCapability} (hcs : ∀ c ∈ cs, c.destination < 2 ^ cspace.sizeBits) :
    Builds T (cs.foldlM (install h) cspace) s fun cspace' s' =>
      cspace'.root = cspace.root ∧ cspace'.sizeBits = cspace.sizeBits ∧
      s'.slots.start = s.slots.start ∧ s'.kernel.root = s.kernel.root ∧
      s'.kernel.nextObject = s.kernel.nextObject ∧ (∀ c ∈ cs, (s.kernel.root c.source).isSome) ∧
      s'.kernel.objects object = .cnode ⟨cspace.sizeBits, cs.foldl (populate s.kernel.root) slots⟩ := by
  induction cs generalizing cspace slots s with
  | nil => exact Builds.pure ⟨rfl, rfl, rfl, rfl, rfl, by simp, hobject⟩
  | cons c cs ih =>
      rw [List.foldlM_cons]
      refine Builds.bind_same (install_builds h hholds hobject hT (hcs c (List.mem_cons_self ..))) ?_
      rintro cspace₁ s₁ hext ⟨hroot, hbits, hstart, hkroot, hnext, hsource, hcontents⟩
      have hholds₁ : Holds cspace₁.root object b s₁ := hroot ▸ hholds.mono hext
      have hcs₁ : ∀ c ∈ cs, c.destination < 2 ^ cspace₁.sizeBits := by
        intro c hc
        rw [hbits]
        exact hcs c (List.mem_cons_of_mem _ hc)
      refine Builds.conseq (ih hholds₁ (hbits ▸ hcontents) hcs₁) ?_
      rintro cspace₂ s₂ - ⟨hroot₂, hbits₂, hstart₂, hkroot₂, hnext₂, hsource₂, hcontents₂⟩
      refine ⟨hroot₂.trans hroot, hbits₂.trans hbits, hstart₂.trans hstart, hkroot₂.trans hkroot,
        hnext₂.trans hnext, ?_, ?_⟩
      · intro c' hc'
        rcases List.mem_cons.mp hc' with rfl | hmem
        · exact hsource
        · rw [← hkroot]
          exact hsource₂ c' hmem
      · rw [hcontents₂, hbits, hkroot, List.foldl_cons]

/-- The delegations of a CSpace, the fault route last. -/
def delegations (capabilities : List DelegatedCapability) (faultRoute : Option FaultRoute) :
    List DelegatedCapability := capabilities ++ (faultRoute.map FaultRoute.delegation).toList

theorem capacity_eq_ok {sizeBits n : Nat} :
    capacity sizeBits = .ok n ↔ 0 < sizeBits ∧ sizeBits < wordBits ∧ n = 2 ^ sizeBits := by
  unfold capacity
  by_cases hbad : sizeBits = 0 ∨ sizeBits ≥ wordBits
  · rw [if_pos hbad]
    exact iff_of_false nofun fun ⟨hpos, hlt, _⟩ => by omega
  · have hlt : sizeBits < wordBits := by omega
    have h32 : sizeBits < 2 ^ 32 := Nat.lt_trans hlt (by decide)
    have hpow : 2 ^ sizeBits < 2 ^ wordBits := Nat.pow_lt_pow_right (by decide) hlt
    rw [if_neg hbad, tryFromU32, if_pos h32, Option.bind_some, checkedShl, if_pos hlt, Nat.one_mul,
      Nat.mod_eq_of_lt hpow]
    constructor
    · intro hn
      exact ⟨by omega, hlt, (Except.ok.inj hn).symm⟩
    · rintro ⟨-, -, rfl⟩
      rfl

/-- A delegation within a CNode of `capacity` slots: destination and source are not null, and the destination
    is in range. -/
structure Placeable (capacity : Nat) (c : DelegatedCapability) : Prop where
  destination_ne : c.destination ≠ 0
  destination_lt : c.destination < capacity
  source_ne : c.source ≠ 0

/-- One more delegation keeps the destinations distinct if none of those before has its own. -/
theorem nodup_append_singleton {prior : List DelegatedCapability} {c : DelegatedCapability} :
    ((prior ++ [c]).map (·.destination)).Nodup ↔
      (prior.map (·.destination)).Nodup ∧ ∀ c' ∈ prior, c'.destination ≠ c.destination := by
  rw [List.map_append, List.map_singleton, List.nodup_append]
  constructor
  · rintro ⟨hprior, -, hnew⟩
    exact ⟨hprior, fun c' hc' => hnew _ (List.mem_map_of_mem hc') _ (List.mem_singleton_self _)⟩
  · rintro ⟨hprior, hnew⟩
    refine ⟨hprior, List.pairwise_singleton _ _, ?_⟩
    intro d hd d' hd' heq
    obtain ⟨c', hc', rfl⟩ := List.mem_map.mp hd
    exact hnew c' hc' (heq.trans (List.mem_singleton.mp hd'))

/-- The check of one delegation against those before it. -/
theorem accepted_iff {capacity : Nat} {prior : List DelegatedCapability} {c : DelegatedCapability} :
    ¬ (c.destination = 0 ∨ c.destination ≥ capacity ∨ c.source = 0 ∨
        (∃ c' ∈ prior, c'.destination = c.destination)) ↔
      Placeable capacity c ∧ ∀ c' ∈ prior, c'.destination ≠ c.destination := by
  simp only [not_or, not_exists, not_and, Nat.not_le, ge_iff_le]
  constructor
  · rintro ⟨hne, hlt, hsource, hnew⟩
    exact ⟨⟨hne, hlt, hsource⟩, hnew⟩
  · rintro ⟨⟨hne, hlt, hsource⟩, hnew⟩
    exact ⟨hne, hlt, hsource, hnew⟩

/-- The list is accepted if each delegation is placeable and no two of them, counting those before, have the
    same destination. -/
theorem validateCapabilities_eq_ok {capacity : Nat} {prior cs : List DelegatedCapability}
    (hprior : (prior.map (·.destination)).Nodup) :
    validateCapabilities capacity prior cs = .ok () ↔
      (∀ c ∈ cs, Placeable capacity c) ∧ ((prior ++ cs).map (·.destination)).Nodup := by
  induction cs generalizing prior with
  | nil =>
      rw [List.append_nil]
      exact iff_of_true rfl ⟨fun c hc => absurd hc List.not_mem_nil, hprior⟩
  | cons c cs ih =>
      have hsplit : prior ++ c :: cs = (prior ++ [c]) ++ cs := (List.append_assoc prior [c] cs).symm
      unfold validateCapabilities
      by_cases hbad : c.destination = 0 ∨ c.destination ≥ capacity ∨ c.source = 0 ∨
          (∃ c' ∈ prior, c'.destination = c.destination)
      · rw [if_pos hbad]
        refine iff_of_false nofun ?_
        rintro ⟨hplace, hnodup⟩
        rw [hsplit, List.map_append] at hnodup
        have hnew := (nodup_append_singleton.mp (List.nodup_append.mp hnodup).1).2
        exact accepted_iff.mpr ⟨hplace c (List.mem_cons_self ..), hnew⟩ hbad
      · rw [if_neg hbad, hsplit]
        obtain ⟨hplace, hnew⟩ := accepted_iff.mp hbad
        rw [ih (nodup_append_singleton.mpr ⟨hprior, hnew⟩)]
        exact and_congr_left fun _ => (List.forall_mem_cons.trans (and_iff_right hplace)).symm

/-- **Validation** accepts exactly the sizes below the word size, and delegations that are placeable and have
    pairwise distinct destinations. -/
theorem validate_eq_ok {sizeBits : Nat} {capabilities : List DelegatedCapability}
    {faultRoute : Option FaultRoute} :
    validate sizeBits capabilities faultRoute = .ok () ↔
      (0 < sizeBits ∧ sizeBits < wordBits) ∧
      (∀ c ∈ delegations capabilities faultRoute, Placeable (2 ^ sizeBits) c) ∧
      ((delegations capabilities faultRoute).map (·.destination)).Nodup := by
  by_cases hbits : 0 < sizeBits ∧ sizeBits < wordBits
  · have hcapacity : capacity sizeBits = .ok (2 ^ sizeBits) := capacity_eq_ok.mpr ⟨hbits.1, hbits.2, rfl⟩
    have hin : ¬ (sizeBits = 0 ∨ sizeBits ≥ wordBits) := by omega
    have hnil : (([] : List DelegatedCapability).map (·.destination)).Nodup := List.nodup_nil
    rw [and_iff_right hbits]
    cases faultRoute with
    | none =>
        have hvalidate : validate sizeBits capabilities none =
            (validateCapabilities (2 ^ sizeBits) [] capabilities >>= fun _ => .ok ()) := by
          rw [validate, hcapacity]
          exact if_neg hin
        rw [hvalidate, except_bind_eq_ok, delegations, Option.map_none, Option.toList_none, List.append_nil]
        constructor
        · rintro ⟨⟨⟩, hcs, -⟩
          exact (validateCapabilities_eq_ok hnil).mp hcs
        · intro hcs
          exact ⟨(), (validateCapabilities_eq_ok hnil).mpr hcs, rfl⟩
    | some route =>
        have hvalidate : validate sizeBits capabilities (some route) =
            (validateCapabilities (2 ^ sizeBits) [] capabilities >>= fun _ =>
              if route.delegation.destination = 0 ∨ route.delegation.destination ≥ 2 ^ sizeBits ∨
                  route.delegation.source = 0 ∨
                  (∃ c ∈ capabilities, c.destination = route.delegation.destination) then
                .error .invalidTaskConfiguration
              else
                .ok ()) := by
          rw [validate, hcapacity]
          exact if_neg hin
        rw [hvalidate, except_bind_eq_ok, delegations, Option.map_some, Option.toList_some,
          nodup_append_singleton, List.forall_mem_append, List.forall_mem_singleton]
        constructor
        · rintro ⟨⟨⟩, hcs, hroute⟩
          obtain ⟨hplace, hnodup⟩ := (validateCapabilities_eq_ok hnil).mp hcs
          by_cases hbad : route.delegation.destination = 0 ∨ route.delegation.destination ≥ 2 ^ sizeBits ∨
              route.delegation.source = 0 ∨
              (∃ c ∈ capabilities, c.destination = route.delegation.destination)
          · rw [if_pos hbad] at hroute
            cases hroute
          · obtain ⟨hlast, hnew⟩ := accepted_iff.mp hbad
            exact ⟨⟨hplace, hlast⟩, hnodup, hnew⟩
        · rintro ⟨⟨hplace, hlast⟩, hnodup, hnew⟩
          refine ⟨(), (validateCapabilities_eq_ok hnil).mpr ⟨hplace, hnodup⟩, ?_⟩
          exact if_neg (accepted_iff.mpr ⟨hlast, hnew⟩)
  · refine iff_of_false ?_ fun hvalid => hbits hvalid.1
    intro hok
    obtain ⟨n, hn, -⟩ := except_bind_eq_ok.mp hok
    obtain ⟨hpos, hlt, -⟩ := capacity_eq_ok.mp hn
    exact hbits ⟨hpos, hlt⟩

/-! ## What a populated CNode holds -/

/-- The slots hold the delegations, each minted from its source, and nothing else. -/
structure Delegated (root : Nat → Option Cap) (ds : List DelegatedCapability) (slots : Nat → Option Cap) :
    Prop where
  installed : ∀ c ∈ ds, ∃ cap, root c.source = some cap ∧
    slots c.destination = some (cap.mint c.rights c.badge)
  nothing_else : ∀ d, (∀ c ∈ ds, c.destination ≠ d) → slots d = none

/-- The delegations stay what they are while their sources do. -/
theorem Delegated.mono {root root' : Nat → Option Cap} {ds : List DelegatedCapability}
    {slots : Nat → Option Cap} (hd : Delegated root ds slots)
    (hroot : ∀ c ∈ ds, ∀ cap, root c.source = some cap → root' c.source = some cap) :
    Delegated root' ds slots where
  installed c hc := by
    obtain ⟨cap, hcap, hslot⟩ := hd.installed c hc
    exact ⟨cap, hroot c hc cap hcap, hslot⟩
  nothing_else := hd.nothing_else

/-- A slot that is the destination of no delegation keeps its contents. -/
theorem foldl_populate_of_ne {root slots : Nat → Option Cap} {ds : List DelegatedCapability} {d : Nat}
    (hd : ∀ c ∈ ds, c.destination ≠ d) : ds.foldl (populate root) slots d = slots d := by
  induction ds generalizing slots with
  | nil => rfl
  | cons c ds ih =>
      rw [List.foldl_cons, ih fun c' hc' => hd c' (List.mem_cons_of_mem _ hc')]
      exact Function.update_of_ne (hd c (List.mem_cons_self ..)).symm _ _

/-- With distinct destinations, no delegation is overwritten by a later one. -/
theorem foldl_populate_of_mem {root slots : Nat → Option Cap} {ds : List DelegatedCapability}
    (hnodup : (ds.map (·.destination)).Nodup) {c : DelegatedCapability} (hc : c ∈ ds) :
    ds.foldl (populate root) slots c.destination = (root c.source).map (·.mint c.rights c.badge) := by
  induction ds generalizing slots with
  | nil => exact absurd hc List.not_mem_nil
  | cons c₀ ds ih =>
      rw [List.map_cons, List.nodup_cons] at hnodup
      rw [List.foldl_cons]
      rcases List.mem_cons.mp hc with rfl | hmem
      · have hlater : ∀ c' ∈ ds, c'.destination ≠ c.destination := by
          intro c' hc' heq
          exact hnodup.1 (heq ▸ List.mem_map_of_mem hc')
        rw [foldl_populate_of_ne hlater]
        exact Function.update_self _ _ _
      · exact ih hnodup.2 hmem

theorem delegated_foldl_populate {root : Nat → Option Cap} {ds : List DelegatedCapability}
    (hnodup : (ds.map (·.destination)).Nodup) (hsources : ∀ c ∈ ds, (root c.source).isSome) :
    Delegated root ds (ds.foldl (populate root) fun _ => none) where
  installed c hc := by
    obtain ⟨cap, hcap⟩ := Option.isSome_iff_exists.mp (hsources c hc)
    refine ⟨cap, hcap, ?_⟩
    rw [foldl_populate_of_mem hnodup hc, hcap]
    rfl
  nothing_else d hd := foldl_populate_of_ne hd

/-! ## Creation -/

/-- The fault route is installed like one more delegation. -/
theorem install_route (cspace : CSpace) (capabilities : List DelegatedCapability)
    (faultRoute : Option FaultRoute) :
    (do let cspace ← capabilities.foldlM (install h) cspace
        match faultRoute with
        | some route => install h cspace route.delegation
        | none       => return cspace) =
      (delegations capabilities faultRoute).foldlM (install h) cspace := by
  rw [delegations, List.foldlM_append]
  cases faultRoute with
  | none => rfl
  | some route =>
      refine congrArg (_ >>= ·) ?_
      funext cspace'
      exact (bind_pure (install h cspace' route.delegation)).symm

/-- What `CSpace.create` makes: one CNode, in the next slot, holding the delegations. -/
structure Made (sizeBits : Nat) (ds : List DelegatedCapability) (s : BootState) (cspace : CSpace)
    (s' : BootState) : Prop where
  root : cspace.root = s.slots.start
  size : cspace.sizeBits = sizeBits
  start : s'.slots.start = s.slots.start + 1
  nextObject : s'.kernel.nextObject = s.kernel.nextObject + 1
  holds : Holds cspace.root s.kernel.nextObject (.cnode sizeBits) s'
  kroot : s'.kernel.root = Function.update s.kernel.root s.slots.start
    (some ⟨s.kernel.nextObject, .cnode sizeBits, .all, 0, none⟩)
  contents : ∃ slots, s'.kernel.objects s.kernel.nextObject = .cnode ⟨sizeBits, slots⟩ ∧
    Delegated s'.kernel.root ds slots

theorem create_builds (T : Nat → Prop) (sizeBits : Nat) (capabilities : List DelegatedCapability)
    (faultRoute : Option FaultRoute) (s : BootState) :
    Builds T (create h sizeBits capabilities faultRoute) s
      (Made sizeBits (delegations capabilities faultRoute) s) := by
  unfold create
  refine Builds.bind_same (Builds.ofExcept (D := fun _ s₁ => s₁ = s ∧
    validate sizeBits capabilities faultRoute = .ok ()) fun _ hv => ⟨rfl, hv⟩) ?_
  rintro - s₀ - ⟨rfl, hvalid⟩
  obtain ⟨-, hplace, hnodup⟩ := validate_eq_ok.mp hvalid
  have hrange : ∀ c ∈ delegations capabilities faultRoute, c.destination < 2 ^ sizeBits :=
    fun c hc => (hplace c hc).destination_lt
  refine Builds.bind (allocateBlueprint_builds h T _ _) ?_
  rintro root s₁ hext ⟨rfl, hcreated⟩
  -- from here on only the new CNode is touched
  refine ⟨Eq s₀.kernel.nextObject, fun id hid hnew => absurd hid (by omega), ?_⟩
  refine Builds.bind_same (Builds.ofExcept (D := fun _ s => s₁ = s) fun _ _ => rfl) ?_
  rintro capacity s₁ - rfl
  cases SlotTracker.tryNew capacity with
  | error e => exact Builds.throw
  | ok tracker =>
      have hobject : s₁.kernel.objects s₀.kernel.nextObject = .cnode ⟨sizeBits, fun _ => none⟩ := by
        rw [hcreated.objects, Function.update_self]
        rfl
      have hholds₁ : Holds (CSpace.mk s₀.slots.start sizeBits tracker).root s₀.kernel.nextObject
          (.cnode sizeBits) s₁ := hcreated.holds
      show Builds _ (do
        let cspace ← capabilities.foldlM (install h) ⟨s₀.slots.start, sizeBits, tracker⟩
        match faultRoute with
        | some route => install h cspace route.delegation
        | none       => return cspace) s₁ _
      rw [install_route]
      refine Builds.conseq (foldlM_install_builds h hholds₁ hobject rfl hrange) ?_
      rintro cspace s₂ hext₂ ⟨hroot, hbits, hstart, hkroot, hnext, hsources, hcontents⟩
      refine ⟨hroot, hbits, hstart.trans hcreated.start, hnext.trans hcreated.nextObject,
        hroot ▸ hholds₁.mono hext₂, hkroot.trans hcreated.root, _, hcontents, ?_⟩
      rw [hkroot]
      exact delegated_foldl_populate hnodup hsources

end CSpace
end Ricoq
