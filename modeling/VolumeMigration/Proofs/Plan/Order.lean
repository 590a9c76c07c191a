import VolumeMigration.Proofs.Plan.Calls

/-!
# The order of calls

`OnlyAfter property kind made` says that a call of a kind is made only when the calls before it
have a property. It splits over an append, so that it is proved part by part.
-/

namespace VolumeMigration

section Cuts

variable {α : Type} {first second earlier later : List α} {item : α}

/-- A list of two parts that is cut at an item is cut in one of the parts. -/
theorem exists_cut (parted : first ++ second = earlier ++ item :: later) :
    (∃ rest, first = earlier ++ item :: rest ∧ later = rest ++ second) ∨
      ∃ more, earlier = first ++ more ∧ second = more ++ item :: later := by
  rcases List.append_eq_append_iff.mp parted with ⟨more, rfl, rfl⟩ | ⟨more, rfl, cut⟩
  · exact .inr ⟨more, rfl, rfl⟩
  · rcases more with _ | ⟨head, rest⟩
    · rw [List.nil_append] at cut
      exact .inr ⟨[], by rw [List.append_nil, List.append_nil], cut.symm⟩
    · rw [List.cons_append, List.cons.injEq] at cut
      rcases cut with ⟨rfl, rfl⟩
      exact .inl ⟨rest, rfl, rfl⟩

/-- A list cut at an item that its first part does not hold. -/
theorem exists_rest (parted : first ++ second = earlier ++ item :: later) (absent : item ∉ first) :
    ∃ more, earlier = first ++ more ∧ second = more ++ item :: later := by
  rcases exists_cut parted with ⟨rest, rfl, -⟩ | found
  · simp at absent
  · exact found

/-- A list cut at an item that only its middle part holds. -/
theorem exists_middle {last : List α} (parted : first ++ second ++ last = earlier ++ item :: later)
    (not_first : item ∉ first) (not_last : item ∉ last) :
    ∃ before after, second = before ++ item :: after ∧ earlier = first ++ before := by
  rw [List.append_assoc] at parted
  rcases exists_rest parted not_first with ⟨before, rfl, cut⟩
  rcases exists_cut cut with ⟨after, rfl, -⟩ | ⟨more, -, rfl⟩
  · exact ⟨before, after, rfl, rfl⟩
  · simp at not_last

end Cuts

/-- Each call of a kind is made only after calls with a property. -/
def OnlyAfter (property : List Exchange → Prop) (kind : Call → Prop) (made : List Exchange) :
    Prop :=
  ∀ ⦃earlier later : List Exchange⦄ ⦃exchange : Exchange⦄,
    made = earlier ++ exchange :: later → kind exchange.call → property earlier

section OnlyAfter

variable {property : List Exchange → Prop} {kind : Call → Prop} {first second made : List Exchange}

theorem onlyAfter_of_none (others : ∀ exchange ∈ made, ¬kind exchange.call) :
    OnlyAfter property kind made := by
  intro earlier later exchange parted matches_kind
  apply absurd matches_kind
  apply others
  rw [parted]
  exact List.mem_append_right _ List.mem_cons_self

theorem onlyAfter_nil : OnlyAfter property kind [] := by
  apply onlyAfter_of_none
  intro exchange exchange_mem
  cases exchange_mem

theorem onlyAfter_singleton {exchange : Exchange} (holds : property []) :
    OnlyAfter property kind [exchange] := by
  intro earlier later other parted _
  rcases List.append_eq_singleton_iff.mp parted.symm with ⟨rfl, -⟩ | ⟨-, impossible⟩
  · exact holds
  · cases impossible

/-- An order holds of two parts of a history, if the second part may count on the first one. -/
theorem OnlyAfter.append (left : OnlyAfter property kind first)
    (right : OnlyAfter (fun more => property (first ++ more)) kind second) :
    OnlyAfter property kind (first ++ second) := by
  intro earlier later exchange parted matches_kind
  rcases exists_cut parted with ⟨rest, here, -⟩ | ⟨more, rfl, there⟩
  · exact left here matches_kind
  · exact right there matches_kind

theorem OnlyAfter.mono {weaker : List Exchange → Prop} (after : OnlyAfter property kind made)
    (implies : ∀ earlier, property earlier → weaker earlier) : OnlyAfter weaker kind made := by
  intro earlier later exchange parted matches_kind
  exact implies earlier (after parted matches_kind)

end OnlyAfter

end VolumeMigration
