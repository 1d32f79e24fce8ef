import TabDeck.Proofs.Display
import TabDeck.Proofs.Notices
import TabDeck.Proofs.Totality

/-!
# A gesture that is called off

While a finger is on the panes the row may be dragged, settle and be dragged again, and the panes
follow it. As long as no other tab becomes active, the row would go back to where it stood when the
finger came down: the remembered offset is written by a press, which finds a pane aligned there, and
when the row arrives at a pane, which is then that of the active tab again. So calling the gesture
off undoes it, whatever happened meanwhile.

`Deck.Displaced` says how far a deck has gone from where it was: only the gesture, the row and the
place of the panes differ, and each pane that is shown is off by as much as the row.
-/

namespace TabDeck

/-- What may go on between a press and the end of the gesture. -/
inductive Action.Continues : Action → Prop where
  | drag (touch : Touch) (movement : Point) (time : Nat) :
      Continues (.input (.drag touch movement time))
  | release (touch : Touch) : Continues (.input (.release touch))
  | tick (elapsed : Nat) : Continues (.tick elapsed)

/-- What calls a gesture off: something else took it over, or the deck is disabled. -/
inductive Action.CallsOff : Action → Prop where
  | input : CallsOff (.input .abandon)
  | abandon : CallsOff .abandon
  | disable : CallsOff (.enable false)

namespace Deck

variable {μ σ : Type}

/-- The row of a deck that flicks stands at the offset of the active tab, and the panes stand where
the deck has them. -/
structure InOrder (deck : Deck μ σ) : Prop where
  laidOut : deck.laidOut = true
  flicks : deck.settings.flicks = true
  onActive : ∃ active, deck.active = some active ∧ deck.row.offsetOf active = .ok deck.row.offset
  inPlace : deck.PanesInPlace

/-- The row, the active tab and the panes are as they were, and nothing is held or moves. -/
structure Undone (before after : Deck μ σ) : Prop where
  offset : after.row.offset = before.row.offset
  active : after.active = before.active
  panes : ∀ index, after.paneAt index = before.paneAt index
  places : ∀ handle, after.link.shown handle = before.link.shown handle
  released : after.pressed = none
  atRest : after.AtRest

/-! ## Panes for all tabs -/

/-- Every tab has a pane. -/
def Furnished (deck : Deck μ σ) : Prop :=
  ∀ index < deck.tabs.length, (deck.paneAt index).isSome = true

/-- No tab loses its pane, though another pane may take its place. -/
def KeepsFurnished (before after : Deck μ σ) : Prop :=
  after.tabs.length = before.tabs.length ∧
    ∀ index, (before.paneAt index).isSome = true → (after.paneAt index).isSome = true

namespace KeepsFurnished

variable {before after deck : Deck μ σ}

theorem refl (deck : Deck μ σ) : deck.KeepsFurnished deck := ⟨rfl, fun _ => id⟩

theorem trans {first second third : Deck μ σ} (earlier : first.KeepsFurnished second)
    (later : second.KeepsFurnished third) : first.KeepsFurnished third :=
  ⟨later.1.trans earlier.1, fun index given => later.2 index (earlier.2 index given)⟩

theorem furnished (keeps : before.KeepsFurnished after) (known : before.Furnished) :
    after.Furnished := by
  intro index present
  rw [keeps.1] at present
  exact keeps.2 index (known index present)

theorem of_served (served : before.Served after) : before.KeepsFurnished after := by
  refine ⟨served.length_tabs, ?_⟩
  intro index given
  rcases Option.isSome_iff_exists.mp given with ⟨handle, isHere⟩
  rw [served.paneAt isHere]
  rfl

theorem of_restyled (restyled : before.Restyled after) : before.KeepsFurnished after := by
  refine ⟨restyled.length_tabs, ?_⟩
  intro index given
  rw [restyled.paneAt]
  exact given

variable [PaneHost σ] {outcome : Outcome} {index : Nat}

theorem of_activate (done : deck.activate index = .ok (outcome, after)) :
    deck.KeepsFurnished after := by
  rcases activate_eq_ok done with ⟨row, gesture, mid, served, rfl, -⟩
  have chosen : deck.KeepsFurnished { deck.withActive index with row, gesture } :=
    ⟨rfl, fun _ => id⟩
  exact (chosen.trans (of_served served)).trans (of_restyled (restyled_arrange mid))

theorem of_switched (switched : before.Switched after) : before.KeepsFurnished after :=
  switched.related refl of_activate

theorem of_move (move : Move before after) : before.KeepsFurnished after := by
  cases move with
  | restyle restyled => exact of_restyled restyled
  | adjust gesture row pressed enabled size offset => exact ⟨rfl, fun _ => id⟩
  | slide gesture row pressed size moved =>
    have changed : before.KeepsFurnished { before with gesture, row, pressed } :=
      ⟨rfl, fun _ => id⟩
    exact changed.trans (of_served (served_of_moveAll moved))
  | activate present activated => exact of_activate activated

theorem of_supplyPane {handle : PaneId}
    (done : deck.supplyPane index handle = .ok (outcome, after)) : deck.KeepsFurnished after := by
  rcases supplyPane_eq_ok done with rfl | ⟨tab, link, present, rfl, -⟩
  · exact refl after
  · refine ⟨List.length_set .., ?_⟩
    intro other given
    by_cases same : index = other
    · subst same
      simp only [paneAt, List.getElem?_set_self (List.getElem?_eq_some_iff.mp present).1,
        Option.bind_some, Option.isSome_some]
    · simp only [paneAt, List.getElem?_set_ne same]
      exact given

theorem of_handleFocus {event : KeyFocus.Event}
    (done : deck.handleFocus event = .ok (outcome, after)) : deck.KeepsFurnished after := by
  rcases switched_or_served_of_handleFocus done with ⟨focus, rest⟩
  have focused : deck.KeepsFurnished { deck with focus } := ⟨rfl, fun _ => id⟩
  rcases rest with switched | served
  · exact focused.trans (of_switched switched)
  · exact focused.trans (of_served served)

theorem of_perform [FontMetrics μ] {action : Action} {answer : Answer}
    (unplaced : ∀ bounds, action ≠ .placeAt bounds)
    (done : deck.perform action = .ok (answer, after)) : deck.KeepsFurnished after := by
  cases performs_of_perform done with
  | moves moves => exact moves.related refl trans of_move
  | places bounds outcome same placed => exact absurd same (unplaced bounds)
  | supplies index handle outcome same supplied => exact of_supplyPane supplied
  | relabels captions outcome same relabelled =>
    rcases relabel_eq_ok relabelled with ⟨mid, area, restyled, -, rfl⟩
    have refitted : mid.KeepsFurnished { mid with paneArea := area } := ⟨rfl, fun _ => id⟩
    exact (of_restyled restyled).trans (refitted.trans (of_restyled (restyled_arrange _)))
  | focuses event outcome handled => exact of_handleFocus handled

end KeepsFurnished

section Sessions

variable [PaneHost σ] {start deck after : Deck μ σ}

theorem paneAt_of_mountEach (items : List Nat) (done : items.foldlM mountPane deck = .ok after) :
    ∀ index ∈ items, (after.paneAt index).isSome = true := by
  induction items generalizing deck with
  | nil => simp
  | cons index rest ih =>
    rw [List.foldlM_cons, bind_eq_ok] at done
    rcases done with ⟨middle, first, later⟩
    intro other member
    rcases List.mem_cons.mp member with rfl | member
    · have served : middle.Served after :=
        foldlM_related Served.refl Served.trans served_of_mountPane rest later
      rcases mountPane_eq_ok first with ⟨handle, mid, found, rfl⟩
      have given : mid.paneAt other = some handle := Mounts.paneAt_of_paneOf found
      rw [served.paneAt given]
      rfl
    · exact ih later other member

/-- A placement mounts the panes of all tabs side by side. -/
theorem furnished_of_placeAt [FontMetrics μ] (flicks : deck.settings.flicks = true)
    {bounds : Rect} {outcome : Outcome} (done : deck.placeAt bounds = .ok (outcome, after)) :
    after.Furnished := by
  rcases placeAt_eq_ok done with ⟨measured, area, row, stripWidth, shown, last, restyled, -, -,
    showed, stays, selects, rfl⟩
  have measuredFlicks : measured.settings.flicks = true := by
    rw [(Keeps.of_restyled restyled).settings]
    exact flicks
  have shownFurnished : shown.Furnished := by
    have fittedFlicks : ({ measured with paneArea := area, row } : Deck μ σ).settings.flicks =
        true := measuredFlicks
    rcases showPanes_eq_ok_of_flicks fittedFlicks showed with ⟨aligned, -, -, mounted⟩
    intro index present
    rw [(served_of_mountAll mounted).length_tabs] at present
    exact paneAt_of_mountEach _ mounted index (List.mem_range.mpr present)
  have chosen : shown.KeepsFurnished last :=
    .of_switched (switched_of_placement stays selects)
  exact (chosen.trans (.of_restyled (restyled_arrange last))).furnished shownFurnished

/-- A deck that flicks has panes for all tabs from its first placement on. -/
theorem Reaches.furnished [FontMetrics μ] {actions : List Action}
    (reached : start.Reaches actions deck) (unplaced : start.laidOut = false)
    (flicks : start.settings.flicks = true) (laidOut : deck.laidOut = true) :
    deck.Furnished := by
  revert laidOut
  apply reaches_induction _ _ reached
  · intro laidOut
    rw [unplaced] at laidOut
    cases laidOut
  · intro _ before action answer after reachedBefore earlier performed laidOut
    rcases placed_or_keeps performed with ⟨bounds, outcome, rfl, placed⟩ | ⟨apart, keeps⟩
    · refine furnished_of_placeAt ?_ placed
      rw [reachedBefore.lasts.settings]
      exact flicks
    · exact (KeepsFurnished.of_perform apart performed).furnished (earlier (keeps.laidOut ▸ laidOut))

end Sessions

/-! ## How far a deck has gone -/

/-- The decks differ in what a gesture changes, and in requests to the host. -/
def Gestured (home deck : Deck μ σ) : Prop :=
  ∃ gesture row pressed enabled link,
    deck = { home with gesture, row, pressed, enabled, link }

namespace Gestured

variable {home deck : Deck μ σ}

theorem refl (deck : Deck μ σ) : deck.Gestured deck := ⟨_, _, _, _, _, rfl⟩

theorem adjust (gestured : home.Gestured deck) (gesture : Gesture) (row : PaneRow)
    (pressed : Option Nat) (enabled : Bool) (link : PaneLink σ) :
    home.Gestured { deck with gesture, row, pressed, enabled, link } := by
  rcases gestured with ⟨_, _, _, _, _, rfl⟩
  exact ⟨gesture, row, pressed, enabled, link, rfl⟩

theorem active (gestured : home.Gestured deck) : deck.active = home.active := by
  rcases gestured with ⟨_, _, _, _, _, rfl⟩
  rfl

theorem settings (gestured : home.Gestured deck) : deck.settings = home.settings := by
  rcases gestured with ⟨_, _, _, _, _, rfl⟩
  rfl

theorem laidOut (gestured : home.Gestured deck) : deck.laidOut = home.laidOut := by
  rcases gestured with ⟨_, _, _, _, _, rfl⟩
  rfl

theorem paneRect (gestured : home.Gestured deck) : deck.paneRect = home.paneRect := by
  rcases gestured with ⟨_, _, _, _, _, rfl⟩
  rfl

theorem paneAt (gestured : home.Gestured deck) (index : Nat) :
    deck.paneAt index = home.paneAt index := by
  rcases gestured with ⟨_, _, _, _, _, rfl⟩
  rfl

theorem furnished (gestured : home.Gestured deck) (furnished : home.Furnished) :
    deck.Furnished := by
  rcases gestured with ⟨_, _, _, _, _, rfl⟩
  exact furnished

/-- The place of a shown pane is off by as much as the row, so that all tabs that have the pane
agree on it. -/
theorem corner (gestured : home.Gestured deck) (inOrder : home.InOrder)
    (size : home.row.SameSize deck.row) {index : Nat} {handle : PaneId} {rect : Rect}
    (given : deck.paneAt index = some handle) (shown : home.link.shown handle = some rect) :
    (deck.paneBounds index).origin = rect.origin + ⟨deck.row.offset - home.row.offset, 0⟩ := by
  rw [gestured.paneAt] at given
  rw [inOrder.inPlace index handle rect given shown]
  simp only [paneBounds, gestured.settings, inOrder.flicks, if_true, Rect.shiftBy_origin,
    PaneRow.paneLeft, size.2.1, gestured.paneRect]
  show Point.mk _ _ = Point.mk _ _
  simp only [Point.mk.injEq, Point.add_x, Point.add_y]
  omega

end Gestured

/-- Each shown pane of a tab is as far from its place on another deck as told, and all others are
where they were. -/
structure Carried (home : Deck μ σ) (distance : Int) (link : PaneLink σ) : Prop where
  panes : ∀ index handle rect, home.paneAt index = some handle →
    home.link.shown handle = some rect → link.shown handle = some (rect.shiftBy ⟨distance, 0⟩)
  others : ∀ handle, (home.link.shown handle = none ∨ ∀ index, home.paneAt index ≠ some handle) →
    link.shown handle = home.link.shown handle

/-- The row of a deck was moved, and the shown panes with it. The row would go back to where it
was. -/
structure Displaced (home deck : Deck μ σ) : Prop where
  gestured : home.Gestured deck
  size : home.row.SameSize deck.row
  remembered : deck.row.remembered = home.row.offset
  carried : home.Carried (deck.row.offset - home.row.offset) deck.link

namespace Carried

variable {home : Deck μ σ}

theorem refl (home : Deck μ σ) : home.Carried 0 home.link := by
  refine ⟨?_, fun _ _ => rfl⟩
  intro index handle rect _ shown
  rw [shown, Rect.shiftBy_zero]

/-- Panes that were carried nowhere are where they were. -/
theorem shown {link : PaneLink σ} (carried : home.Carried 0 link) (handle : PaneId) :
    link.shown handle = home.link.shown handle := by
  cases isShown : home.link.shown handle with
  | none => rw [carried.others handle (Or.inl isShown), isShown]
  | some rect =>
    by_cases given : ∃ index, home.paneAt index = some handle
    · rcases given with ⟨index, given⟩
      rw [carried.panes index handle rect given isShown, Rect.shiftBy_zero]
    · rw [carried.others handle (Or.inr fun index isHere => given ⟨index, isHere⟩), isShown]

end Carried

/-- However far the panes are, moving them brings them to where the row is. -/
theorem Gestured.carried_of_moveAll [PaneHost σ] {home deck after : Deck μ σ} {distance : Int}
    (gestured : home.Gestured deck) (inOrder : home.InOrder) (furnished : home.Furnished)
    (size : home.row.SameSize deck.row) (carried : home.Carried distance deck.link)
    (moved : deck.moveAll = .ok after) :
    ∃ link, after = { deck with link } ∧
      home.Carried (deck.row.offset - home.row.offset) link := by
  have flicks : deck.settings.flicks = true := gestured.settings ▸ inOrder.flicks
  have laidOut := gestured.laidOut.trans inOrder.laidOut
  refine ⟨_, eq_of_moveAll moved flicks laidOut (gestured.furnished furnished), ?_, ?_⟩
  · intro index handle rect given shown
    apply shown_moveEach ((gestured.paneAt index).trans given)
      (carried.panes index handle rect given shown)
    intro other isOther
    exact gestured.corner inOrder size isOther shown
  · intro handle apart
    rw [← carried.others handle apart]
    apply shown_moveEach_of_apart
    rcases apart with hidden | absent
    · exact Or.inl ((carried.others handle (Or.inl hidden)).trans hidden)
    · right
      intro index given
      exact absent index ((gestured.paneAt index).symm.trans given)

namespace Displaced

variable {home deck after : Deck μ σ}

theorem of_level (level : home.row.remembered = home.row.offset) : home.Displaced home := by
  refine ⟨Gestured.refl home, ⟨rfl, rfl, rfl⟩, level, ?_⟩
  rw [Int.sub_self]
  exact Carried.refl home

/-- The gesture goes on, and the row stays where it is. -/
theorem adjust (displaced : home.Displaced deck) (gesture : Gesture) (row : PaneRow)
    (pressed : Option Nat) (enabled : Bool) (size : deck.row.SameSize row)
    (offset : row.offset = deck.row.offset) (remembered : row.remembered = home.row.offset) :
    home.Displaced { deck with gesture, row, pressed, enabled } := by
  refine ⟨displaced.gestured.adjust gesture row pressed enabled deck.link,
    displaced.size.trans size, remembered, ?_⟩
  rw [offset]
  exact displaced.carried

/-- The row moves, and the panes with it. -/
theorem slide [PaneHost σ] (displaced : home.Displaced deck) (inOrder : home.InOrder)
    (furnished : home.Furnished) {gesture : Gesture} {row : PaneRow} {pressed : Option Nat}
    (size : deck.row.SameSize row) (remembered : row.remembered = home.row.offset)
    (moved : { deck with gesture, row, pressed }.moveAll = .ok after) : home.Displaced after := by
  have gestured := displaced.gestured.adjust gesture row pressed deck.enabled deck.link
  have sameSize := displaced.size.trans size
  rcases gestured.carried_of_moveAll inOrder furnished sameSize displaced.carried moved with
    ⟨link, rfl, carried⟩
  exact ⟨displaced.gestured.adjust gesture row pressed deck.enabled link, sameSize, remembered,
    carried⟩

/-! ## What a gesture does -/

variable [FontMetrics μ] [PaneHost σ] {answer : Answer} {action : Action}

omit [FontMetrics μ] [PaneHost σ] in
/-- A finger that comes down finds a pane aligned, so that the offset is remembered. Only a row
without width has none, and stands where it would go back to anyway. -/
theorem remembered_of_press (inOrder : home.InOrder) (coherent : home.Coherent) :
    (if home.row.aligned.isSome then home.row.remember else home.row).remembered =
      home.row.offset := by
  have nonempty : 0 < home.row.count := coherent.counted ▸ coherent.nonempty
  rcases inOrder.onActive with ⟨active, isActive, there⟩
  split
  · rfl
  · next unaligned =>
    by_cases narrow : home.row.stride = 0
    · exact (coherent.within.offset_eq_remembered nonempty coherent.sideBySide narrow).symm
    · have present : active < home.row.count := coherent.counted ▸ coherent.present active isActive
      exact absurd (PaneRow.aligned_isSome_of_offsetOf nonempty coherent.sideBySide
        (Nat.pos_of_ne_zero narrow) present there) unaligned

theorem of_press (inOrder : home.InOrder) (coherent : home.Coherent)
    (poised : home.Poised) {touch : Touch}
    (performed : home.perform (.input (.press touch)) = .ok (answer, after))
    (silent : reported answer = none) : home.Displaced after := by
  rcases inOrder.onActive with ⟨active, isActive, there⟩
  have kept := (TabStep.of_perform performed).active_of_silent silent (by rw [isActive]; rfl)
  rcases accepted_eq_ok.mp performed with ⟨outcome, handled, -⟩
  rcases handle_eq_ok handled with ⟨disabled, rfl⟩ | ⟨-, pressed⟩
  · exact of_level (poised.dormant disabled).2.symm
  · rcases press_eq_ok_of_kept inOrder.flicks pressed kept with ⟨inStrip, held, rfl⟩
    have offset : (if home.row.aligned.isSome then home.row.remember else home.row).offset =
        home.row.offset := by
      split <;> rfl
    refine ⟨(Gestured.refl home).adjust _ _ _ home.enabled home.link, ?_,
      remembered_of_press inOrder coherent, ?_⟩
    · split <;> exact ⟨rfl, rfl, rfl⟩
    · rw [offset, Int.sub_self]
      exact Carried.refl home

/-- Dragging, letting go and settling leave the row where it can be called back from. -/
theorem goesOn (displaced : home.Displaced deck) (inOrder : home.InOrder)
    (furnished : home.Furnished) (coherent : deck.Coherent) (continues : action.Continues)
    (performed : deck.perform action = .ok (answer, after)) (silent : reported answer = none) :
    home.Displaced after := by
  rcases inOrder.onActive with ⟨active, wasActive, there⟩
  have isActive : deck.active = some active := displaced.gestured.active.trans wasActive
  have flicks : deck.settings.flicks = true :=
    displaced.gestured.settings ▸ inOrder.flicks
  have kept := (TabStep.of_perform performed).active_of_silent silent (by rw [isActive]; rfl)
  cases continues with
  | drag touch movement time =>
    rcases accepted_eq_ok.mp performed with ⟨outcome, handled, -⟩
    rcases handle_eq_ok handled with ⟨-, rfl⟩ | ⟨-, dragged⟩
    · exact displaced
    rcases drag_eq_ok dragged with ⟨-, rfl⟩ | ⟨_, taken, gesture, row, -, -, moves, takes, leaves⟩
    · exact displaced
    rcases Gesture.drag_eq_ok moves with ⟨rfl, -, moved, -⟩ | ⟨rfl, -, rfl, -⟩
    · apply displaced.slide inOrder furnished (PaneRow.sameSize_of_moveBy moved) _ (takes rfl)
      rcases PaneRow.moveBy_eq_ok moved with rfl | ⟨offset, -, rfl⟩ <;> exact displaced.remembered
    · rw [leaves rfl]
      exact displaced.adjust gesture deck.row deck.pressed deck.enabled ⟨rfl, rfl, rfl⟩ rfl
        displaced.remembered
  | release touch =>
    rcases accepted_eq_ok.mp performed with ⟨outcome, handled, -⟩
    rcases handle_eq_ok handled with ⟨-, rfl⟩ | ⟨-, released⟩
    · exact displaced
    rw [release_eq_ok_of_kept flicks released kept]
    exact displaced.adjust _ deck.row none deck.enabled ⟨rfl, rfl, rfl⟩ rfl displaced.remembered
  | tick elapsed =>
    rcases accepted_eq_ok.mp performed with ⟨outcome, ticked, -⟩
    rcases tick_eq_ok ticked with ⟨progress, gesture, row, moves, rest⟩
    rcases Gesture.tick_eq_ok moves with ⟨rfl, -⟩ |
      ⟨target, offset, settling, -, ⟨rfl, -, aligned, -⟩ | ⟨rfl, -, moved, -⟩⟩
    · rw [rest.1]
      exact displaced
    · rcases rest with ⟨mid, selection, followed, selected, -⟩
      have midActive : mid.active = deck.active := by
        rcases served_of_moveAll followed with ⟨_, _, rfl, -⟩
        rfl
      have present := coherent.targeted target (Gesture.target_eq_some_iff.mpr settling)
      have length : mid.tabs.length = deck.tabs.length := (served_of_moveAll followed).length_tabs
      rcases select_eq_ok selected with ⟨rfl, -, absent | already⟩ | ⟨-, inactive, activated⟩
      · omega
      · apply displaced.slide inOrder furnished (PaneRow.sameSize_of_alignTo aligned) _ followed
        rcases PaneRow.alignTo_eq_ok aligned with ⟨reached, found, rfl⟩
        rw [midActive, isActive, Option.some.injEq] at already
        rw [displaced.size.offsetOf, ← already, there] at found
        exact (Except.ok.inj found).symm
      · rw [midActive, ← kept, active_of_activate activated] at inactive
        exact absurd rfl inactive
    · apply displaced.slide inOrder furnished (PaneRow.sameSize_of_moveTo moved) _ rest.1
      rcases PaneRow.moveTo_eq_ok moved with ⟨_, -, rfl⟩
      exact displaced.remembered

theorem run {actions : List Action} {answers : List Answer} (displaced : home.Displaced deck)
    (inOrder : home.InOrder) (furnished : home.Furnished) (coherent : deck.Coherent)
    (continues : ∀ action ∈ actions, action.Continues)
    (ran : deck.run actions = .ok (answers, after))
    (silent : ∀ answer ∈ answers, reported answer = none) : home.Displaced after := by
  induction actions generalizing deck answers with
  | nil =>
    cases ran
    exact displaced
  | cons action rest ih =>
    rcases run_cons_eq_ok.mp ran with ⟨answer, middle, later, performed, ranLater, rfl⟩
    have next := displaced.goesOn inOrder furnished coherent
      (continues action List.mem_cons_self) performed (silent answer List.mem_cons_self)
    exact ih next (coherent.perform performed)
      (fun other member => continues other (List.mem_cons_of_mem action member)) ranLater
      (fun other member => silent other (List.mem_cons_of_mem answer member))

/-! ## What calling it off does -/

omit [FontMetrics μ] in
theorem undone_of_callOff (displaced : home.Displaced deck) (inOrder : home.InOrder)
    (furnished : home.Furnished) (released : deck.pressed = none) {moved : Bool}
    (done : deck.callOff = .ok (moved, after)) : home.Undone after := by
  rcases callOff_eq_ok done with ⟨isMoved, goes, stays⟩
  have size : deck.row.SameSize deck.row.goBack := ⟨rfl, rfl, rfl⟩
  have follows : home.Displaced after := by
    cases moved with
    | true => exact displaced.slide inOrder furnished size displaced.remembered (goes rfl)
    | false =>
      have level : deck.row.goBack.offset = deck.row.offset := by
        simpa [PaneRow.movedFrom] using isMoved
      rw [stays rfl]
      exact displaced.adjust _ deck.row.goBack deck.pressed deck.enabled size level
        displaced.remembered
  have carried := follows.carried
  rcases served_of_callOff done with ⟨link, tabs, rfl, -⟩
  have back : deck.row.goBack.offset = home.row.offset := displaced.remembered
  rw [back, Int.sub_self] at carried
  exact ⟨back, displaced.gestured.active, follows.gestured.paneAt, carried.shown, released, rfl, rfl⟩

omit [FontMetrics μ] [PaneHost σ] in
/-- A disabled deck was not displaced at all. -/
theorem undone_of_disabled (displaced : home.Displaced deck) (coherent : deck.Coherent)
    (poised : deck.Poised) (disabled : deck.enabled = false) : home.Undone deck := by
  rcases poised.dormant disabled with ⟨released, level⟩
  have back : deck.row.offset = home.row.offset := level.trans displaced.remembered
  have carried := displaced.carried
  rw [back, Int.sub_self] at carried
  have resting := coherent.inert disabled
  refine ⟨back, displaced.gestured.active, displaced.gestured.paneAt, carried.shown, released, ?_,
    Gesture.target_of_resting resting⟩
  rw [Gesture.isDragging, resting]
  rfl

/-- Wherever the gesture has led, it can be called off, and then nothing of it is left. -/
theorem undone (displaced : home.Displaced deck) (inOrder : home.InOrder)
    (furnished : home.Furnished) (coherent : deck.Coherent) (poised : deck.Poised)
    (callsOff : action.CallsOff) :
    ∃ answer called, deck.perform action = .ok (answer, called) ∧ home.Undone called := by
  have unpressed : home.Displaced { deck with pressed := none } :=
    displaced.adjust deck.gesture deck.row none deck.enabled ⟨rfl, rfl, rfl⟩ rfl
      displaced.remembered
  have abandons : ∃ outcome called, deck.abandon = .ok (outcome, called) ∧ home.Undone called := by
    rcases abandon_total deck with ⟨⟨outcome, called⟩, abandoned⟩
    rcases abandon_eq_ok abandoned with ⟨moved, calledOff⟩
    exact ⟨outcome, called, abandoned, unpressed.undone_of_callOff inOrder furnished rfl calledOff⟩
  rcases abandons with ⟨outcome, called, abandoned, undone⟩
  cases enabled : deck.enabled with
  | true =>
    cases callsOff with
    | input =>
      have handled : deck.handle .abandon = .ok (outcome, called) := by
        rw [handle, if_pos enabled]
        exact abandoned
      exact ⟨_, called, accepted_eq_ok.mpr ⟨outcome, handled, rfl⟩, undone⟩
    | abandon => exact ⟨_, called, accepted_eq_ok.mpr ⟨outcome, abandoned, rfl⟩, undone⟩
    | disable =>
      rcases callOff_total { deck with enabled := false, pressed := none } with
        ⟨⟨moved, mid⟩, calledOff⟩
      have closed : home.Displaced { deck with enabled := false, pressed := none } :=
        displaced.adjust deck.gesture deck.row none false ⟨rfl, rfl, rfl⟩ rfl displaced.remembered
      have disabled : deck.enable false =
          .ok ((mid.enableArrows false).repaintAll, mid.enableArrows false) := by
        simp only [enable, enabled, calledOff]
        rfl
      have undoneMid := closed.undone_of_callOff inOrder furnished rfl calledOff
      exact ⟨_, _, accepted_eq_ok.mpr ⟨_, disabled, rfl⟩, undoneMid.offset, undoneMid.active,
        undoneMid.panes, undoneMid.places, undoneMid.released, undoneMid.atRest⟩
  | false =>
    have stands := displaced.undone_of_disabled coherent poised enabled
    cases callsOff with
    | input =>
      have ignored : deck.handle .abandon = .ok (.nothing, deck) := by
        rw [handle, if_neg (by simp [enabled])]
        rfl
      exact ⟨_, deck, accepted_eq_ok.mpr ⟨_, ignored, rfl⟩, stands⟩
    | abandon => exact ⟨_, called, accepted_eq_ok.mpr ⟨outcome, abandoned, rfl⟩, undone⟩
    | disable =>
      have already : deck.enable false = .ok (.nothing, deck) := by
        rw [enable, if_pos enabled]
        rfl
      exact ⟨_, deck, accepted_eq_ok.mpr ⟨_, already, rfl⟩, stands⟩

end Displaced

/-! ## Sessions -/

section Gestures

variable [FontMetrics μ] [PaneHost σ] {capacity : Nat} {captions : List Caption} {metrics : μ}
  {host : σ} {settings : Settings} {start deck : Deck μ σ} {earlier steps : List Action}

/-- Whatever drags, releases and ticks follow a press on a deck that flicks and is in order, the
gesture runs to its end, and if no other tab became active meanwhile, then calling it off leaves the
row, the active tab and the panes as they were before the press, with nothing held or moving. -/
theorem calling_off_undoes_gesture
    (made : ofCaptions capacity captions metrics host settings = .ok start)
    (reached : start.Reaches earlier deck) (inOrder : deck.InOrder) (touch : Touch)
    (continues : ∀ action ∈ steps, action.Continues) :
    ∃ answers present, deck.run (.input (.press touch) :: steps) = .ok (answers, present) ∧
      ((∀ answer ∈ answers, reported answer = none) →
        ∀ action : Action, action.CallsOff → ∃ answer called,
          present.perform action = .ok (answer, called) ∧ deck.Undone called) := by
  have sound := reached.sound (sound_ofCaptions made)
  have furnished : deck.Furnished := by
    refine reached.furnished ?_ ?_ inOrder.laidOut
    · rcases ofCaptions_eq_ok made with ⟨-, _, _, -, rfl⟩
      rfl
    · rw [← reached.lasts.settings]
      exact inOrder.flicks
  have reach : ∀ bounds, .placeAt bounds ∈ .input (.press touch) :: steps →
      (((deck.tabs.length - 1) * bounds.size.width : Nat) : Int) ≤ Word.maxSigned := by
    intro bounds member
    rcases List.mem_cons.mp member with impossible | member
    · cases impossible
    · cases continues _ member
  rcases sound.run_total reach with ⟨present, answers, ran⟩
  refine ⟨answers, present, ran, ?_⟩
  intro silent action callsOff
  rcases run_cons_eq_ok.mp ran with ⟨answer, begun, later, pressed, ranLater, rfl⟩
  have first := Displaced.of_press inOrder sound.coherent sound.poised pressed
    (silent answer List.mem_cons_self)
  have displaced := first.run inOrder furnished (sound.coherent.perform pressed) continues ranLater
    fun other member => silent other (List.mem_cons_of_mem answer member)
  have soundPresent : present.Sound := Reaches.sound ⟨_, ran⟩ sound
  exact displaced.undone inOrder furnished soundPresent.coherent soundPresent.poised callsOff

end Gestures

/-- A drag of less than half the width of the deck, after which the row settles back, while the
finger drags on in vain. -/
def shortDrag : List Action :=
  [.input (.drag ⟨10, 50⟩ ⟨-40, 0⟩ 16), .tick 16, .input (.release ⟨10, 50⟩),
    .input (.drag ⟨10, 50⟩ ⟨-40, 0⟩ 32)]

/-- The drag leaves the panes forty pixels to the left, and calling it off brings them back. -/
theorem calling_off_undoes_short_drag :
    ∃ start deck present : Deck FixedAdvance DemoPanes, ∃ answers,
      ofCaptions 8 fourImages ⟨6, 7, 10⟩ {} .touchscreen = .ok start ∧
      start.Reaches [.placeAt ⟨⟨0, 0⟩, ⟨100, 80⟩⟩] deck ∧ deck.InOrder ∧
      deck.run (.input (.press ⟨50, 50⟩) :: shortDrag) = .ok (answers, present) ∧
      (∀ answer ∈ answers, reported answer = none) ∧
      present.row.offset = -40 ∧ present.gesture.target = some 0 ∧
      ∀ action : Action, action.CallsOff → ∃ answer called,
        present.perform action = .ok (answer, called) ∧ deck.Undone called := by
  obtain ⟨start, deck, present, answers, made, reached, inOrder, ran, silent, moved, target⟩ :
      ∃ start deck present : Deck FixedAdvance DemoPanes, ∃ answers,
        ofCaptions 8 fourImages ⟨6, 7, 10⟩ {} .touchscreen = .ok start ∧
        start.Reaches [.placeAt ⟨⟨0, 0⟩, ⟨100, 80⟩⟩] deck ∧ deck.InOrder ∧
        deck.run (.input (.press ⟨50, 50⟩) :: shortDrag) = .ok (answers, present) ∧
        (∀ answer ∈ answers, reported answer = none) ∧
        present.row.offset = -40 ∧ present.gesture.target = some 0 := by
    refine ⟨_, _, _, _, rfl, ⟨_, rfl⟩, ⟨rfl, rfl, ⟨0, rfl, ?_⟩, by decide⟩, rfl, ?_, rfl, rfl⟩
    · exact PaneRow.confine_eq_ok.mpr (by decide)
    · exact List.filterMap_eq_nil_iff.mp rfl
  have continues : ∀ action ∈ shortDrag, action.Continues := by
    intro action member
    simp only [shortDrag, List.mem_cons, List.not_mem_nil, or_false] at member
    rcases member with rfl | rfl | rfl | rfl <;> constructor
  refine ⟨start, deck, present, answers, made, reached, inOrder, ran, silent, moved, target, ?_⟩
  rcases calling_off_undoes_gesture made reached inOrder ⟨50, 50⟩ continues with
    ⟨_, _, ranAlso, undoes⟩
  rw [ran] at ranAlso
  cases ranAlso
  exact undoes silent

end Deck

end TabDeck
