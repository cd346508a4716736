import Mathlib.Data.Nat.Prime.Basic
import Ricoq.Boot.RootTask
import Ricoq.Lib.Region

/-!
# `Boot.Correctness.Layout` — the safe layouts

`TaskLayout.validate` never looks at a byte range: it checks that addresses are multiples of the page size,
that a page does not run past the last word, and that no address occurs twice. For a power of two this is
exactly what makes the pages disjoint ranges that end within the address space (`validate_exact`).
-/

namespace Ricoq

open Sel4 Bootstrap

/-! ## The page list -/

namespace TaskLayout

/-- What the loop over a list of pages checks of each page, and of the list. -/
theorem checkPages_eq_ok {pageSize : Nat} {prior addresses : List Nat} :
    checkPages pageSize prior addresses = .ok () ↔
      (∀ a ∈ addresses, pageSize ∣ a ∧ a + pageSize ≤ wordMax) ∧
      addresses.Nodup ∧ ∀ a ∈ addresses, a ∉ prior := by
  induction addresses generalizing prior with
  | nil => simp [checkPages]
  | cons address rest ih =>
      unfold checkPages
      by_cases haligned : address % pageSize ≠ 0
      · rw [if_pos haligned]
        constructor
        · exact fun h => nomatch h
        · intro ⟨hall, _⟩
          exact absurd (Nat.mod_eq_zero_of_dvd (hall address (List.mem_cons_self ..)).1) haligned
      · rw [if_neg haligned]
        by_cases hoverflow : (checkedAdd address pageSize).isNone
        · rw [if_pos hoverflow]
          constructor
          · exact fun h => nomatch h
          · intro ⟨hall, _⟩
            have hend := (hall address (List.mem_cons_self ..)).2
            exact absurd (checkedAdd_isNone.mp hoverflow) (Nat.not_lt.mpr hend)
        · rw [if_neg hoverflow]
          have hdvd : pageSize ∣ address := Nat.dvd_of_mod_eq_zero (not_not.mp haligned)
          have hend : address + pageSize ≤ wordMax := by
            rw [checkedAdd_isNone] at hoverflow
            exact Nat.not_lt.mp hoverflow
          by_cases hprior : address ∈ prior
          · rw [if_pos hprior]
            constructor
            · exact fun h => nomatch h
            · intro ⟨_, _, hnew⟩
              exact absurd hprior (hnew address (List.mem_cons_self ..))
          · rw [if_neg hprior, ih]
            simp only [List.forall_mem_cons, List.nodup_cons, List.mem_append, List.mem_singleton, not_or]
            constructor
            · rintro ⟨hall, hnodup, hnew⟩
              exact ⟨⟨⟨hdvd, hend⟩, hall⟩, ⟨fun hmem => (hnew address hmem).2 rfl, hnodup⟩, hprior,
                fun a ha => (hnew a ha).1⟩
            · rintro ⟨⟨-, hall⟩, ⟨hnot, hnodup⟩, -, hnew⟩
              refine ⟨hall, hnodup, fun a ha => ⟨hnew a ha, ?_⟩⟩
              rintro rfl
              exact hnot ha

end TaskLayout

/-! ## Safe layouts -/

/-- A layout is safe when its pages are aligned, end within the address space and share no byte, and the
    instruction at its entry is an aligned word of the code page. -/
structure SafeLayout (pageSize codeAddress entry privateMemoryAddress stackAddress ipcBufferAddress : Nat)
    (reservedPages : List Nat) : Prop where
  aligned : ∀ a ∈ [codeAddress, privateMemoryAddress, stackAddress, ipcBufferAddress] ++ reservedPages,
    pageSize ∣ a
  ends : ∀ a ∈ [codeAddress, privateMemoryAddress, stackAddress, ipcBufferAddress] ++ reservedPages,
    a + pageSize ≤ wordMax
  disjoint : ([codeAddress, privateMemoryAddress, stackAddress, ipcBufferAddress] ++ reservedPages).Pairwise
    fun a b => Disjoint (bytes pageSize a) (bytes pageSize b)
  entry_aligned : 4 ∣ entry
  entry_inside : bytes 4 entry ⊆ bytes pageSize codeAddress

namespace TaskLayout

variable {pageSize codeAddress entry privateMemoryAddress stackAddress ipcBufferAddress : Nat}
  {reservedPages : List Nat}

/-- The two loops together check the pages followed by the reserved pages. -/
theorem checkPages_append_eq_ok {addresses reserved : List Nat} :
    checkPages pageSize [] addresses = .ok () ∧ checkPages pageSize addresses reserved = .ok () ↔
      (∀ a ∈ addresses ++ reserved, pageSize ∣ a ∧ a + pageSize ≤ wordMax) ∧ (addresses ++ reserved).Nodup := by
  rw [checkPages_eq_ok, checkPages_eq_ok, List.nodup_append]
  constructor
  · rintro ⟨⟨hpages, hnodup, -⟩, hreserved, hnodup', hnew⟩
    refine ⟨?_, hnodup, hnodup', ?_⟩
    · intro a ha
      rcases List.mem_append.mp ha with hpage | hres
      · exact hpages a hpage
      · exact hreserved a hres
    · rintro a ha b hb rfl
      exact hnew a hb ha
  · rintro ⟨hall, hnodup, hnodup', hdis⟩
    refine ⟨⟨?_, hnodup, fun a _ => List.not_mem_nil⟩, ?_, hnodup', fun a hres ha => hdis a ha a hres rfl⟩
    · exact fun a ha => hall a (List.mem_append_left _ ha)
    · exact fun a ha => hall a (List.mem_append_right _ ha)

/-- The checks of `validate`, and the stack pointer it returns. -/
theorem validate_eq_ok {layout : TaskLayout} :
    validate pageSize codeAddress entry privateMemoryAddress stackAddress ipcBufferAddress reservedPages =
        .ok layout ↔
      (pageSize ≠ 0 ∧ isPowerOfTwo pageSize) ∧
      (∀ a ∈ [codeAddress, privateMemoryAddress, stackAddress, ipcBufferAddress] ++ reservedPages,
        pageSize ∣ a ∧ a + pageSize ≤ wordMax) ∧
      ([codeAddress, privateMemoryAddress, stackAddress, ipcBufferAddress] ++ reservedPages).Nodup ∧
      (codeAddress ≤ entry ∧ entry < codeAddress + pageSize ∧ 4 ∣ entry) ∧
      layout = ⟨stackAddress + pageSize⟩ := by
  constructor
  · intro hok
    unfold validate at hok
    by_cases hsize : pageSize = 0 ∨ ¬ isPowerOfTwo pageSize
    · rw [if_pos hsize] at hok
      exact nomatch hok
    · rw [if_neg hsize] at hok
      obtain ⟨⟨⟩, hpages, hok⟩ := except_bind_eq_ok.mp hok
      obtain ⟨⟨⟩, hreserved, hok⟩ := except_bind_eq_ok.mp hok
      obtain ⟨hall, hnodup⟩ := checkPages_append_eq_ok.mp ⟨hpages, hreserved⟩
      have hcode := (hall codeAddress (by simp)).2
      have hstack := (hall stackAddress (by simp)).2
      simp only [checkedAdd_of_le hcode, checkedAdd_of_le hstack] at hok
      by_cases hentry : entry < codeAddress ∨ entry ≥ codeAddress + pageSize ∨ entry % 4 ≠ 0
      · rw [if_pos hentry] at hok
        exact nomatch hok
      · rw [if_neg hentry] at hok
        obtain rfl := Except.ok.inj hok
        refine ⟨⟨?_, ?_⟩, hall, hnodup, ⟨by omega, by omega, by omega⟩, rfl⟩
        · exact fun hzero => hsize (.inl hzero)
        · exact not_not.mp fun hpow => hsize (.inr hpow)
  · rintro ⟨⟨hpos, hpow⟩, hall, hnodup, ⟨hlo, hhi, hdvd⟩, rfl⟩
    obtain ⟨hpages, hreserved⟩ := checkPages_append_eq_ok.mpr ⟨hall, hnodup⟩
    have hsize : ¬ (pageSize = 0 ∨ ¬ isPowerOfTwo pageSize) := by simp [hpos, hpow]
    have hcode := (hall codeAddress (by simp)).2
    have hstack := (hall stackAddress (by simp)).2
    have hentry : ¬ (entry < codeAddress ∨ entry ≥ codeAddress + pageSize ∨ entry % 4 ≠ 0) := by omega
    unfold validate
    rw [if_neg hsize, except_bind_eq_ok]
    refine ⟨(), hpages, except_bind_eq_ok.mpr ⟨(), hreserved, ?_⟩⟩
    simp only [checkedAdd_of_le hcode, checkedAdd_of_le hstack]
    rw [if_neg hentry]

/-- For a page size that is a power of two of at least four bytes, passing the checks is being safe. -/
theorem validate_ok_iff (hpow : ∃ i, pageSize = 2 ^ i) (hfour : 4 ≤ pageSize) :
    (∃ layout, validate pageSize codeAddress entry privateMemoryAddress stackAddress ipcBufferAddress
        reservedPages = .ok layout) ↔
      SafeLayout pageSize codeAddress entry privateMemoryAddress stackAddress ipcBufferAddress
        reservedPages := by
  have hpos : 0 < pageSize := by omega
  have hdvd : 4 ∣ pageSize := by
    obtain ⟨i, rfl⟩ := hpow
    have htwo : 2 ≤ i := (Nat.pow_le_pow_iff_right (by decide : 1 < 2)).mp hfour
    exact Nat.pow_dvd_pow 2 htwo
  constructor
  · rintro ⟨layout, hok⟩
    obtain ⟨-, hall, hnodup, ⟨hlo, hhi, hentry⟩, -⟩ := validate_eq_ok.mp hok
    have haligned := fun a ha => (hall a ha).1
    exact
      { aligned := haligned
        ends := fun a ha => (hall a ha).2
        disjoint := (pairwise_disjoint_iff_nodup hpos haligned).mpr hnodup
        entry_aligned := hentry
        entry_inside := (bytes_subset_iff (by decide) hdvd (haligned _ (by simp)) hentry).mpr ⟨hlo, hhi⟩ }
  · intro hsafe
    have hnodup := (pairwise_disjoint_iff_nodup hpos hsafe.aligned).mp hsafe.disjoint
    obtain ⟨hlo, hhi⟩ :=
      (bytes_subset_iff (by decide) hdvd (hsafe.aligned _ (by simp)) hsafe.entry_aligned).mp hsafe.entry_inside
    refine ⟨⟨stackAddress + pageSize⟩, validate_eq_ok.mpr ⟨⟨?_, isPowerOfTwo_iff.mpr hpow⟩, ?_, hnodup, ?_, rfl⟩⟩
    · omega
    · exact fun a ha => ⟨hsafe.aligned a ha, hsafe.ends a ha⟩
    · exact ⟨hlo, hhi, hsafe.entry_aligned⟩

/-- **Layout validation accepts exactly the safe layouts.** For a page size that is a power of two of at least
    four bytes, `validate` succeeds exactly on the safe layouts. The stack pointer it returns is the exclusive
    end of the stack page, which is a word, and is 16-byte aligned for a page size that is a multiple of 16.
    A page end that is no word is refused, not wrapped; zero and sizes that are no power of two are always
    refused. -/
theorem validate_exact (pageSize codeAddress entry privateMemoryAddress stackAddress ipcBufferAddress : Nat)
    (reservedPages : List Nat) :
    ((∃ i, pageSize = 2 ^ i) → 4 ≤ pageSize →
      ((∃ layout, validate pageSize codeAddress entry privateMemoryAddress stackAddress ipcBufferAddress
          reservedPages = .ok layout) ↔
        SafeLayout pageSize codeAddress entry privateMemoryAddress stackAddress ipcBufferAddress
          reservedPages)) ∧
    (∀ layout, validate pageSize codeAddress entry privateMemoryAddress stackAddress ipcBufferAddress
        reservedPages = .ok layout →
      layout.stackPointer = stackAddress + pageSize ∧ stackAddress + pageSize ≤ wordMax ∧
      (16 ∣ pageSize → 16 ∣ layout.stackPointer)) ∧
    (∀ a ∈ [codeAddress, privateMemoryAddress, stackAddress, ipcBufferAddress] ++ reservedPages,
      wordMax < a + pageSize →
      ∃ error, validate pageSize codeAddress entry privateMemoryAddress stackAddress ipcBufferAddress
        reservedPages = .error error) ∧
    ((¬ ∃ i, pageSize = 2 ^ i) →
      ∃ error, validate pageSize codeAddress entry privateMemoryAddress stackAddress ipcBufferAddress
        reservedPages = .error error) := by
  refine ⟨validate_ok_iff, ?_, ?_, ?_⟩
  · intro layout hok
    obtain ⟨-, hall, -, -, rfl⟩ := validate_eq_ok.mp hok
    obtain ⟨hdvd, hend⟩ := hall stackAddress (by simp)
    exact ⟨rfl, hend, fun hmul => Nat.dvd_add (Nat.dvd_trans hmul hdvd) hmul⟩
  · intro a ha hlt
    cases hv : validate pageSize codeAddress entry privateMemoryAddress stackAddress ipcBufferAddress
        reservedPages with
    | error error => exact ⟨error, rfl⟩
    | ok layout =>
        have hend := ((validate_eq_ok.mp hv).2.1 a ha).2
        exact absurd hlt (Nat.not_lt.mpr hend)
  · intro hpow
    have hsize : pageSize = 0 ∨ ¬ isPowerOfTwo pageSize := .inr fun h => hpow (isPowerOfTwo_iff.mp h)
    exact ⟨.invalidPageSize, by rw [validate, if_pos hsize]⟩

/-- Five pages of 4096 bytes make a safe layout; with the stack in the last page of the address space, whose
    end is no word, they are refused. -/
theorem validate_exact_page :
    SafeLayout 4096 0x400000 0x400010 0x401000 0x402000 0x403000 [0x600000] ∧
    ∃ error, validate 4096 0x400000 0x400010 0x401000 (2 ^ 64 - 4096) 0x403000 [0x600000] = .error error := by
  constructor
  · obtain ⟨hexact, -⟩ := validate_exact 4096 0x400000 0x400010 0x401000 0x402000 0x403000 [0x600000]
    exact (hexact ⟨12, rfl⟩ (by decide)).mp ⟨⟨0x403000⟩, by decide⟩
  · obtain ⟨-, -, hend, -⟩ := validate_exact 4096 0x400000 0x400010 0x401000 (2 ^ 64 - 4096) 0x403000 [0x600000]
    exact hend (2 ^ 64 - 4096) (by decide) (by decide)

end TaskLayout

/-! ## Configurations -/

/-- The four pages of a task. -/
def TaskConfig.pageAddresses (config : TaskConfig) : List Nat :=
  [config.code.address, config.privateMemoryAddress, config.stackAddress, config.ipcBufferAddress]

/-- In a valid layout the pages are aligned, the four pages are distinct, and none of them is reserved. -/
theorem TaskConfig.layout_ok {h : Host} {config : TaskConfig} {layout : TaskLayout}
    (hok : config.layout h = .ok layout) :
    config.pageAddresses.Nodup ∧ (∀ a ∈ config.reservedPages, a ∉ config.pageAddresses) ∧
    ∀ a ∈ config.pageAddresses ++ config.reservedPages, h.machine.pageBytes ∣ a := by
  obtain ⟨-, hall, hnodup, -, -⟩ := TaskLayout.validate_eq_ok.mp hok
  obtain ⟨hpages, -, hdis⟩ := List.nodup_append.mp hnodup
  exact ⟨hpages, fun a hres hpage => hdis a hpage a hres rfl, fun a ha => (hall a ha).1⟩

/-- A configuration without a safe layout is refused with the state as it was. -/
theorem createTask_of_not_safe {h : Host} {config : TaskConfig} (s : BootState)
    (hnotsafe : ¬ SafeLayout h.machine.pageBytes config.code.address config.code.entry
      config.privateMemoryAddress config.stackAddress config.ipcBufferAddress config.reservedPages) :
    createTask h config s = (.err .invalidTaskConfiguration, s) := by
  have hpos : 0 < h.machine.pageBytes := by
    obtain ⟨i, hi⟩ := h.machine.pageBytes_pow
    rw [hi]
    exact Nat.two_pow_pos i
  have hfour : 4 ≤ h.machine.pageBytes :=
    Nat.le_trans (by decide : 4 ≤ 16) (Nat.le_of_dvd hpos h.machine.pageBytes_mul)
  unfold createTask
  cases hlayout : config.layout h with
  | error error => rfl
  | ok layout =>
      exact absurd ((TaskLayout.validate_ok_iff h.machine.pageBytes_pow hfour).mp ⟨layout, hlayout⟩) hnotsafe

end Ricoq
