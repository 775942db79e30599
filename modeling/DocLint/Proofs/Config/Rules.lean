import DocLint.Config.Rules

/-!
DocLint.Proofs.Config.Rules: which sections the rules of a configuration have.

Every section as configured stands for one section of the rules, in its place; only its order can come
from the other sections. The global options have no part in it.
-/

namespace DocLint.Config

theorem length_orders (c : Config) : c.orders.length = c.sections.length := by
  unfold orders
  split
  · rw [List.length_map]
  · rw [List.length_map, List.length_zipIdx]

/-- A section as configured is a section of the rules, with some order. -/
theorem exists_toSection_mem {c : Config} {s : SectionSpec} (h : s ∈ c.sections) :
    ∃ order, s.toSection order ∈ c.toRules.sections := by
  obtain ⟨n, hn, rfl⟩ := List.getElem_of_mem h
  have hn' : n < c.orders.length := by rw [length_orders]; exact hn
  refine ⟨c.orders[n], List.mem_map.mpr ⟨(c.sections[n], c.orders[n]), ?_, rfl⟩⟩
  rw [← List.getElem_zip (h := by rw [List.length_zip, length_orders]; omega)]
  exact List.getElem_mem _

/-- **The sections of the rules depend on the configured sections alone.** -/
theorem toRules_sections_congr {c₁ c₂ : Config} (h : c₁.sections = c₂.sections) :
    c₁.toRules.sections = c₂.toRules.sections := by
  have horders : c₁.orders = c₂.orders := by
    unfold orders sortedOrders
    rw [h]
  show (c₁.sections.zip c₁.orders).map _ = (c₂.sections.zip c₂.orders).map _
  rw [h, horders]

end DocLint.Config
