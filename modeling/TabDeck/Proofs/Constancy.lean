import TabDeck.Proofs.Coherence
import TabDeck.Proofs.Moves

/-!
# What sessions cannot change

The settings and the number of tabs stay as they were when the deck was made. A deck that was placed
stays placed, and once a tab is active there always is an active tab. Only a new placement changes
the bounds.
-/

namespace TabDeck

namespace Deck

variable {μ σ : Type}

/-- What every action but a placement keeps. -/
structure Keeps (before after : Deck μ σ) : Prop where
  settings : after.settings = before.settings
  length : after.tabs.length = before.tabs.length
  bounds : after.bounds = before.bounds
  laidOut : after.laidOut = before.laidOut
  active : before.active.isSome = true → after.active.isSome = true

namespace Keeps

theorem refl (deck : Deck μ σ) : deck.Keeps deck := ⟨rfl, rfl, rfl, rfl, id⟩

theorem trans {first second third : Deck μ σ} (earlier : first.Keeps second)
    (later : second.Keeps third) : first.Keeps third :=
  ⟨later.settings.trans earlier.settings, later.length.trans earlier.length,
    later.bounds.trans earlier.bounds, later.laidOut.trans earlier.laidOut,
    later.active ∘ earlier.active⟩

/-- What is kept by the later of two steps is kept by both, if the first keeps it as well. -/
theorem since {first second third : Deck μ σ} (later : second.Keeps third)
    (earlier : first.Keeps second) : first.Keeps third :=
  earlier.trans later

variable {before after : Deck μ σ}

theorem of_served (served : before.Served after) : before.Keeps after := by
  have length := served.length_tabs
  rcases served with ⟨_, _, rfl, -⟩
  exact ⟨rfl, length, rfl, rfl, id⟩

theorem of_restyled (restyled : before.Restyled after) : before.Keeps after := by
  have length := restyled.length_tabs
  rcases restyled with ⟨_, _, _, _, _, _, _, _, rfl, -⟩
  exact ⟨rfl, length, rfl, rfl, id⟩

variable [PaneHost σ] {deck : Deck μ σ} {outcome : Outcome} {index : Nat}

theorem of_activate (done : deck.activate index = .ok (outcome, after)) : deck.Keeps after := by
  rcases activate_eq_ok done with ⟨row, gesture, mid, served, rfl, -, -⟩
  have chosen : deck.Keeps { deck.withActive index with row, gesture } :=
    ⟨rfl, rfl, rfl, rfl, fun _ => rfl⟩
  exact (chosen.trans (of_served served)).trans (of_restyled (restyled_arrange mid))

theorem of_switched (switched : before.Switched after) : before.Keeps after :=
  switched.related refl of_activate

theorem of_showPanes (done : deck.showPanes = .ok after) : deck.Keeps after := by
  rcases served_of_showPanes done with ⟨row, served, -, -⟩
  have aligned : deck.Keeps { deck with row } := ⟨rfl, rfl, rfl, rfl, id⟩
  exact aligned.trans (of_served served)

/-- A placement changes the bounds, and then keeps what others keep. -/
theorem of_placeAt [FontMetrics μ] {bounds : Rect}
    (done : deck.placeAt bounds = .ok (outcome, after)) :
    ({ deck with bounds, laidOut := true } : Deck μ σ).Keeps after := by
  rcases placeAt_eq_ok done with ⟨measured, area, row, stripWidth, shown, last, restyled, -, -,
    showed, stays, selects, rfl⟩
  have sized : measured.Keeps ({ measured with paneArea := area, row } : Deck μ σ) :=
    ⟨rfl, rfl, rfl, rfl, id⟩
  have chosen : shown.Keeps last := of_switched (switched_of_placement stays selects)
  have followed := (of_restyled restyled).trans (sized.trans (of_showPanes showed))
  exact followed.trans (chosen.trans (of_restyled (restyled_arrange last)))

theorem of_move (move : Move before after) : before.Keeps after := by
  cases move with
  | restyle restyled => exact of_restyled restyled
  | adjust gesture row pressed enabled size offset => exact ⟨rfl, rfl, rfl, rfl, id⟩
  | slide gesture row pressed size moved =>
    exact (of_served (served_of_moveAll moved)).since ⟨rfl, rfl, rfl, rfl, id⟩
  | activate present activated => exact of_activate activated

theorem of_moves (moves : before.Moves after) : before.Keeps after :=
  moves.related refl trans of_move

theorem of_handleFocus {event : KeyFocus.Event}
    (done : deck.handleFocus event = .ok (outcome, after)) : deck.Keeps after := by
  rcases switched_or_served_of_handleFocus done with ⟨focus, switched | served⟩
  · exact (of_switched switched).since ⟨rfl, rfl, rfl, rfl, id⟩
  · exact (of_served served).since ⟨rfl, rfl, rfl, rfl, id⟩

theorem of_perform [FontMetrics μ] {action : Action} {answer : Answer}
    (unplaced : ∀ bounds, action ≠ .placeAt bounds)
    (done : deck.perform action = .ok (answer, after)) : deck.Keeps after := by
  cases performs_of_perform done with
  | moves moves => exact of_moves moves
  | places bounds outcome same placed => exact absurd same (unplaced bounds)
  | supplies index handle outcome same supplied =>
    rcases supplyPane_eq_ok supplied with rfl | ⟨tab, link, -, rfl, -⟩
    · exact refl after
    · exact ⟨rfl, List.length_set .., rfl, rfl, id⟩
  | relabels captions outcome same relabelled =>
    rcases relabel_eq_ok relabelled with ⟨mid, area, restyled, -, rfl⟩
    have refitted : mid.Keeps { mid with paneArea := area } := ⟨rfl, rfl, rfl, rfl, id⟩
    exact (of_restyled restyled).trans (refitted.trans (of_restyled (restyled_arrange _)))
  | focuses event outcome handled => exact of_handleFocus handled

end Keeps

/-- What every session keeps. -/
structure Lasts (before after : Deck μ σ) : Prop where
  settings : after.settings = before.settings
  length : after.tabs.length = before.tabs.length
  laidOut : before.laidOut = true → after.laidOut = true
  active : before.active.isSome = true → after.active.isSome = true

theorem Keeps.lasts {before after : Deck μ σ} (keeps : before.Keeps after) : before.Lasts after :=
  ⟨keeps.settings, keeps.length, fun laidOut => keeps.laidOut.trans laidOut, keeps.active⟩

section Sessions

variable [FontMetrics μ] [PaneHost σ]

/-- An action places the deck anew, or keeps what others keep. -/
theorem placed_or_keeps {deck after : Deck μ σ} {action : Action} {answer : Answer}
    (done : deck.perform action = .ok (answer, after)) :
    (∃ bounds outcome, action = .placeAt bounds ∧ deck.placeAt bounds = .ok (outcome, after)) ∨
      (∀ bounds, action ≠ .placeAt bounds) ∧ deck.Keeps after := by
  by_cases placed : ∃ bounds, action = .placeAt bounds
  · rcases placed with ⟨bounds, rfl⟩
    rcases accepted_eq_ok.mp done with ⟨outcome, placed, -⟩
    exact Or.inl ⟨bounds, outcome, rfl, placed⟩
  · have apart : ∀ bounds, action ≠ .placeAt bounds := fun bounds same => placed ⟨bounds, same⟩
    exact Or.inr ⟨apart, Keeps.of_perform apart done⟩

theorem Lasts.of_perform {deck after : Deck μ σ} {action : Action} {answer : Answer}
    (done : deck.perform action = .ok (answer, after)) : deck.Lasts after := by
  rcases placed_or_keeps done with ⟨bounds, outcome, rfl, placed⟩ | ⟨-, keeps⟩
  · have keeps := Keeps.of_placeAt placed
    exact ⟨keeps.settings, keeps.length, fun _ => keeps.laidOut, keeps.active⟩
  · exact keeps.lasts

theorem Reaches.lasts {start deck : Deck μ σ} {actions : List Action}
    (reached : start.Reaches actions deck) : start.Lasts deck := by
  apply reaches_induction _ _ reached
  · exact (Keeps.refl start).lasts
  · intro _ before action answer after _ earlier performed
    have last := Lasts.of_perform performed
    exact ⟨last.settings.trans earlier.settings, last.length.trans earlier.length,
      last.laidOut ∘ earlier.laidOut, last.active ∘ earlier.active⟩

/-- Some action of a session is a placement. -/
def Placed (actions : List Action) : Prop := ∃ bounds, Action.placeAt bounds ∈ actions

/-- A deck is laid out from its first placement on. -/
theorem Reaches.laidOut {start deck : Deck μ σ} {actions : List Action}
    (reached : start.Reaches actions deck) (placed : Placed actions) : deck.laidOut = true := by
  revert placed
  apply reaches_induction _ _ reached
  · rintro ⟨bounds, impossible⟩
    simp at impossible
  · rintro earlier before action answer after - known performed ⟨bounds, member⟩
    rcases List.mem_append.mp member with before | last
    · exact (Lasts.of_perform performed).laidOut (known ⟨bounds, before⟩)
    · rw [← List.mem_singleton.mp last] at performed
      rcases accepted_eq_ok.mp performed with ⟨outcome, placed, -⟩
      exact (Keeps.of_placeAt placed).laidOut

/-- Only a placement lays a deck out. -/
theorem Reaches.placed {start deck : Deck μ σ} {actions : List Action}
    (reached : start.Reaches actions deck) (unplaced : start.laidOut = false)
    (laidOut : deck.laidOut = true) : Placed actions := by
  revert laidOut
  apply reaches_induction _ _ reached
  · intro laidOut
    rw [unplaced] at laidOut
    cases laidOut
  · intro earlier before action answer after _ known performed laidOut
    rcases placed_or_keeps performed with ⟨bounds, outcome, rfl, -⟩ | ⟨-, keeps⟩
    · exact ⟨bounds, List.mem_append_right _ List.mem_cons_self⟩
    · rcases known (keeps.laidOut ▸ laidOut) with ⟨bounds, member⟩
      exact ⟨bounds, List.mem_append_left _ member⟩

/-- A placed deck has an active tab. -/
theorem active_of_placeAt {deck after : Deck μ σ} {outcome : Outcome} {bounds : Rect}
    (nonempty : 0 < deck.tabs.length)
    (done : deck.placeAt bounds = .ok (outcome, after)) : after.active.isSome = true := by
  rcases placeAt_eq_ok done with ⟨measured, area, row, stripWidth, shown, last, restyled, -, -,
    showed, stays, selects, rfl⟩
  show last.active.isSome = true
  cases isActive : shown.active with
  | some active =>
    rw [stays active isActive, isActive]
    rfl
  | none =>
    rcases selects isActive with ⟨selection, selected⟩
    have length : shown.tabs.length = deck.tabs.length :=
      (Keeps.of_showPanes showed).length.trans restyled.length_tabs
    rcases activate_of_select_first (length ▸ nonempty) isActive selected with ⟨index, -, activated⟩
    rw [active_of_activate activated]
    rfl

/-- Once a deck was placed, there is an active tab. -/
theorem Reaches.active {start deck : Deck μ σ} {actions : List Action}
    (coherent : start.Coherent) (unplaced : start.laidOut = false)
    (reached : start.Reaches actions deck) : deck.laidOut = true → deck.active.isSome = true := by
  apply reaches_induction _ _ reached
  · intro laidOut
    rw [unplaced] at laidOut
    cases laidOut
  · intro _ before action answer after reachedBefore earlier performed laidOut
    rcases placed_or_keeps performed with ⟨bounds, outcome, rfl, placed⟩ | ⟨-, keeps⟩
    · exact active_of_placeAt (reachedBefore.coherent coherent).nonempty placed
    · exact keeps.active (earlier (keeps.laidOut ▸ laidOut))

end Sessions

end Deck

end TabDeck
