import Mathlib.Data.List.Forall2
import TabDeck.Proofs.Runs

/-!
# What operations leave alone

A deck has many parts, and most operations touch few of them. Two relations between decks say what
stays the same: after requests to the host only panes may have been created (`Deck.Served`), and
after changes to the look of the strip the panes, the gesture and the focus are as they were
(`Deck.Restyled`). Every operation is taken apart into such changes and the few that matter: another
tab becomes active, the row of panes moves, the panes get another area, the focus moves.
-/

namespace TabDeck

/-- A tab that may have been given the pane that it lacked, and is otherwise as before. -/
structure Tab.Filled (before after : Tab) : Prop where
  same : after = { before with pane := after.pane }
  kept : ∀ handle, before.pane = some handle → after.pane = some handle

theorem Tab.Filled.refl (tab : Tab) : tab.Filled tab := ⟨rfl, fun _ given => given⟩

theorem Tab.Filled.trans {first second third : Tab} (earlier : first.Filled second)
    (later : second.Filled third) : first.Filled third := by
  refine ⟨?_, ?_⟩
  · rw [later.same, earlier.same]
  · intro handle given
    exact later.kept handle (earlier.kept handle given)

/-- Every tab of a list may have been given a pane. -/
abbrev TabsFilled : List Tab → List Tab → Prop := List.Forall₂ Tab.Filled

theorem TabsFilled.refl (tabs : List Tab) : TabsFilled tabs tabs :=
  List.forall₂_same.mpr fun tab _ => Tab.Filled.refl tab

theorem TabsFilled.trans {first second third : List Tab} (earlier : TabsFilled first second)
    (later : TabsFilled second third) : TabsFilled first third := by
  induction earlier generalizing third with
  | nil =>
    cases later
    exact List.Forall₂.nil
  | cons filled _ ih =>
    cases later with
    | cons again rest => exact List.Forall₂.cons (filled.trans again) (ih rest)

theorem TabsFilled.set {tabs : List Tab} {index : Nat} {tab filled : Tab}
    (present : tabs[index]? = some tab) (fills : tab.Filled filled) :
    TabsFilled tabs (tabs.set index filled) := by
  induction tabs generalizing index with
  | nil => exact List.Forall₂.nil
  | cons first rest ih =>
    cases index with
    | zero =>
      simp only [List.getElem?_cons_zero, Option.some.injEq] at present
      subst present
      exact List.Forall₂.cons fills (TabsFilled.refl rest)
    | succ index =>
      rw [List.getElem?_cons_succ] at present
      exact List.Forall₂.cons (Tab.Filled.refl first) (ih present)

/-- A tab keeps its place. -/
theorem TabsFilled.getElem? {before after : List Tab} (filled : TabsFilled before after)
    {index : Nat} {tab : Tab} (present : before[index]? = some tab) :
    ∃ same, after[index]? = some same ∧ tab.Filled same := by
  induction filled generalizing index with
  | nil => simp at present
  | @cons first second _ _ fills _ ih =>
    cases index with
    | zero =>
      simp only [List.getElem?_cons_zero, Option.some.injEq] at present
      subst present
      exact ⟨second, rfl, fills⟩
    | succ index =>
      rw [List.getElem?_cons_succ] at present
      exact ih present

/-- What does not look at panes sees no difference. -/
theorem TabsFilled.map_eq {before after : List Tab} (filled : TabsFilled before after) {α : Type}
    {view : Tab → α} (blind : ∀ tab pane, view { tab with pane } = view tab) :
    after.map view = before.map view := by
  induction filled with
  | nil => rfl
  | cons fills _ ih =>
    rw [List.map_cons, List.map_cons, ih, fills.same, blind]

/-- A measured strip has one measure for each caption. -/
theorem Strip.length_tabs_of_measure {μ : Type} [FontMetrics μ] {capacity : Nat}
    {captions : List Caption} {metrics : μ} {policy : StripPolicy} {strip : Strip}
    (measured : Strip.measure capacity captions metrics policy = .ok strip) :
    strip.tabs.length = captions.length := by
  simp only [measure, bind_eq_ok, pure_eq_ok] at measured
  rcases measured with ⟨-, -, rfl⟩
  simp only [StripPolicy.sharedWidths]
  split <;> simp

namespace Deck

variable {μ σ : Type}

/-! ## Requests to the host -/

/-- The decks differ in requests made to the host, and in panes created meanwhile. -/
def Served (before after : Deck μ σ) : Prop :=
  ∃ link tabs, after = { before with link, tabs } ∧ TabsFilled before.tabs tabs

theorem Served.refl (deck : Deck μ σ) : deck.Served deck :=
  ⟨deck.link, deck.tabs, rfl, TabsFilled.refl deck.tabs⟩

theorem Served.trans {first second third : Deck μ σ} (earlier : first.Served second)
    (later : second.Served third) : first.Served third := by
  rcases earlier with ⟨_, _, rfl, filled⟩
  rcases later with ⟨link, tabs, rfl, again⟩
  exact ⟨link, tabs, rfl, TabsFilled.trans filled again⟩

theorem Served.length_tabs {before after : Deck μ σ} (served : before.Served after) :
    after.tabs.length = before.tabs.length := by
  rcases served with ⟨_, _, rfl, filled⟩
  exact filled.length_eq.symm

section Host

variable [PaneHost σ] {deck after : Deck μ σ} {index : Nat} {handle : PaneId}

/-- The pane of a tab is the one it has, or else a new one. -/
theorem paneOf_eq_ok (done : deck.paneOf index = .ok (handle, after)) :
    ∃ tab, deck.tabs[index]? = some tab ∧
      ((tab.pane = some handle ∧ after = deck) ∨
        (tab.pane = none ∧ handle = (deck.link.create index).1 ∧
          after = { deck with
            link := (deck.link.create index).2
            tabs := deck.tabs.set index { tab with pane := some handle } })) := by
  simp only [paneOf, bind_eq_ok, entry_eq_ok] at done
  rcases done with ⟨tab, present, result⟩
  refine ⟨tab, present, ?_⟩
  cases given : tab.pane with
  | some old =>
    simp only [given, pure_eq_ok, Prod.mk.injEq] at result
    rcases result with ⟨rfl, rfl⟩
    exact Or.inl ⟨rfl, rfl⟩
  | none =>
    simp only [given, pure_eq_ok, Prod.mk.injEq] at result
    rcases result with ⟨rfl, rfl⟩
    exact Or.inr ⟨rfl, rfl, rfl⟩

theorem served_of_paneOf (done : deck.paneOf index = .ok (handle, after)) :
    deck.Served after ∧ ∃ tab, after.tabs[index]? = some tab ∧ tab.pane = some handle := by
  rcases paneOf_eq_ok done with ⟨tab, present, ⟨given, rfl⟩ | ⟨missing, -, rfl⟩⟩
  · exact ⟨Served.refl _, tab, present, given⟩
  · have fills : tab.Filled { tab with pane := some handle } := by
      refine ⟨rfl, ?_⟩
      intro old given
      rw [missing] at given
      cases given
    refine ⟨⟨_, _, rfl, TabsFilled.set present fills⟩, { tab with pane := some handle }, ?_, rfl⟩
    rw [List.getElem?_set_self (List.getElem?_eq_some_iff.mp present).1]

theorem mountPane_eq_ok (done : deck.mountPane index = .ok after) :
    ∃ handle mid, deck.paneOf index = .ok (handle, mid) ∧
      after = { mid with link := mid.link.mount handle (mid.paneBounds index) } := by
  simp only [mountPane, bind_eq_ok, pure_eq_ok] at done
  rcases done with ⟨⟨handle, mid⟩, found, rfl⟩
  exact ⟨handle, mid, found, rfl⟩

/-- A pane that is there already is the one that is found, and none is created. -/
theorem paneOf_of_given {tab : Tab} (present : deck.tabs[index]? = some tab)
    (given : tab.pane = some handle) : deck.paneOf index = .ok (handle, deck) := by
  rw [paneOf, bind_eq_ok]
  refine ⟨tab, entry_eq_ok.mpr present, ?_⟩
  rw [given]
  rfl

theorem mountPane_of_given {tab : Tab} (present : deck.tabs[index]? = some tab)
    (given : tab.pane = some handle) :
    deck.mountPane index =
      .ok { deck with link := deck.link.mount handle (deck.paneBounds index) } := by
  rw [mountPane, bind_eq_ok]
  exact ⟨(handle, deck), paneOf_of_given present given, rfl⟩

theorem movePane_eq_ok (done : deck.movePane index = .ok after) :
    ∃ handle mid, deck.paneOf index = .ok (handle, mid) ∧
      after = { mid with link := mid.link.move handle (mid.paneBounds index).origin } := by
  simp only [movePane, bind_eq_ok, pure_eq_ok] at done
  rcases done with ⟨⟨handle, mid⟩, found, rfl⟩
  exact ⟨handle, mid, found, rfl⟩

theorem movePane_of_given {tab : Tab} (present : deck.tabs[index]? = some tab)
    (given : tab.pane = some handle) :
    deck.movePane index =
      .ok { deck with link := deck.link.move handle (deck.paneBounds index).origin } := by
  rw [movePane, bind_eq_ok]
  exact ⟨(handle, deck), paneOf_of_given present given, rfl⟩

theorem unmountPane_eq_ok (done : deck.unmountPane index = .ok after) :
    ∃ tab, deck.tabs[index]? = some tab ∧
      ((tab.pane = none ∧ after = deck) ∨
        ∃ handle, tab.pane = some handle ∧
          after = { deck with link := deck.link.unmount handle }) := by
  simp only [unmountPane, bind_eq_ok, entry_eq_ok] at done
  rcases done with ⟨tab, present, result⟩
  refine ⟨tab, present, ?_⟩
  cases given : tab.pane with
  | some handle =>
    simp only [given, pure_eq_ok] at result
    exact Or.inr ⟨handle, rfl, result.symm⟩
  | none =>
    simp only [given, pure_eq_ok] at result
    exact Or.inl ⟨rfl, result.symm⟩

theorem unmountPane_of_given {tab : Tab} (present : deck.tabs[index]? = some tab)
    (given : tab.pane = some handle) :
    deck.unmountPane index = .ok { deck with link := deck.link.unmount handle } := by
  rw [unmountPane, bind_eq_ok]
  refine ⟨tab, entry_eq_ok.mpr present, ?_⟩
  rw [given]
  rfl

theorem unmountPane_of_missing {tab : Tab} (present : deck.tabs[index]? = some tab)
    (missing : tab.pane = none) : deck.unmountPane index = .ok deck := by
  rw [unmountPane, bind_eq_ok]
  refine ⟨tab, entry_eq_ok.mpr present, ?_⟩
  rw [missing]
  rfl

theorem served_of_mountPane (done : deck.mountPane index = .ok after) : deck.Served after := by
  rcases mountPane_eq_ok done with ⟨handle, mid, found, rfl⟩
  exact (served_of_paneOf found).1.trans ⟨_, _, rfl, TabsFilled.refl _⟩

theorem served_of_movePane (done : deck.movePane index = .ok after) : deck.Served after := by
  rcases movePane_eq_ok done with ⟨handle, mid, found, rfl⟩
  exact (served_of_paneOf found).1.trans ⟨_, _, rfl, TabsFilled.refl _⟩

theorem served_of_unmountPane (done : deck.unmountPane index = .ok after) :
    deck.Served after := by
  rcases unmountPane_eq_ok done with ⟨tab, -, ⟨-, rfl⟩ | ⟨handle, -, rfl⟩⟩
  · exact Served.refl _
  · exact ⟨_, _, rfl, TabsFilled.refl _⟩

theorem served_of_mountAll (done : deck.mountAll = .ok after) : deck.Served after :=
  foldlM_related Served.refl Served.trans served_of_mountPane _ done

theorem moveAll_eq_ok (done : deck.moveAll = .ok after) :
    (deck.settings.flicks = true ∧ deck.laidOut = true ∧
      (List.range deck.tabs.length).foldlM movePane deck = .ok after) ∨
    ((deck.settings.flicks = false ∨ deck.laidOut = false) ∧ after = deck) := by
  simp only [moveAll, Bool.and_eq_true] at done
  split at done
  · next sideBySide => exact Or.inl ⟨sideBySide.1, sideBySide.2, done⟩
  · next apart =>
    cases done
    refine Or.inr ⟨?_, rfl⟩
    simpa [Decidable.or_iff_not_imp_left] using apart

theorem served_of_moveAll (done : deck.moveAll = .ok after) : deck.Served after := by
  rcases moveAll_eq_ok done with ⟨-, -, moved⟩ | ⟨-, rfl⟩
  · exact foldlM_related Served.refl Served.trans served_of_movePane _ moved
  · exact Served.refl _

theorem exchangePanes_eq_ok {previous : Option Nat}
    (done : deck.exchangePanes previous index = .ok after) :
    ∃ mid, (match previous with
      | some previous => deck.unmountPane previous = .ok mid
      | none => mid = deck) ∧ mid.mountPane index = .ok after := by
  cases previous with
  | some previous =>
    simp only [exchangePanes, bind_eq_ok] at done
    exact done
  | none =>
    simp only [exchangePanes, bind_eq_ok, Except.ok.injEq] at done
    rcases done with ⟨mid, rfl, mounted⟩
    exact ⟨_, rfl, mounted⟩

theorem served_of_exchangePanes {previous : Option Nat}
    (done : deck.exchangePanes previous index = .ok after) : deck.Served after := by
  rcases exchangePanes_eq_ok done with ⟨mid, unmounted, mounted⟩
  cases previous with
  | some previous => exact (served_of_unmountPane unmounted).trans (served_of_mountPane mounted)
  | none =>
    cases unmounted
    exact served_of_mountPane mounted

end Host

/-! ## The look of the strip -/

/-- The decks differ only in how the strip looks, and in what it is measured and coloured by. -/
def Restyled (before after : Deck μ σ) : Prop :=
  ∃ palette tabs strip placed shift stripWidth arrows hasIcons,
    after = { before with
      palette, tabs, strip, placed, shift, arrows, hasIcons
      row := before.row.withStripWidth stripWidth } ∧
    tabs.map Tab.pane = before.tabs.map Tab.pane

theorem Restyled.refl (deck : Deck μ σ) : deck.Restyled deck :=
  ⟨_, _, _, _, _, deck.row.stripWidth, _, _, rfl, rfl⟩

theorem Restyled.trans {first second third : Deck μ σ} (earlier : first.Restyled second)
    (later : second.Restyled third) : first.Restyled third := by
  rcases earlier with ⟨_, _, _, _, _, _, _, _, rfl, panes⟩
  rcases later with ⟨_, _, _, _, _, stripWidth, _, _, rfl, samePanes⟩
  exact ⟨_, _, _, _, _, stripWidth, _, _, rfl, samePanes.trans panes⟩

theorem Restyled.length_tabs {before after : Deck μ σ} (restyled : before.Restyled after) :
    after.tabs.length = before.tabs.length := by
  rcases restyled with ⟨_, tabs, _, _, _, _, _, _, rfl, panes⟩
  have lengths := congrArg List.length panes
  rwa [List.length_map, List.length_map] at lengths

theorem restyled_arrange (deck : Deck μ σ) : deck.Restyled deck.arrange :=
  ⟨_, _, _, _, _, deck.wantedWidth, _, _, rfl, rfl⟩

/-- Changing what is on the tabs, except their panes, changes only the look. -/
theorem restyled_tabs {deck : Deck μ σ} {tabs : List Tab}
    (panes : tabs.map Tab.pane = deck.tabs.map Tab.pane) : deck.Restyled { deck with tabs } :=
  ⟨_, tabs, _, _, _, deck.row.stripWidth, _, _, rfl, panes⟩

/-- A view of the tabs that does not see a change of one of them. -/
theorem map_set {α : Type} {view : Tab → α} {tabs : List Tab} {index : Nat} {tab changed : Tab}
    (present : tabs[index]? = some tab) (same : view changed = view tab) :
    (tabs.set index changed).map view = tabs.map view := by
  rcases List.getElem?_eq_some_iff.mp present with ⟨bound, rfl⟩
  rw [List.map_set, same]
  apply List.ext_getElem?
  intro other
  rw [List.getElem?_set]
  split
  · next here =>
    subst here
    rw [List.length_map, if_pos bound, List.getElem?_map, List.getElem?_eq_getElem bound]
    rfl
  · rfl

/-- A view of combined entries that sees only what comes from the first list. -/
theorem map_zipWith {α β γ δ : Type} {view : γ → δ} {own : α → δ} {combine : α → β → γ}
    {first : List α} {second : List β} (lengths : second.length = first.length)
    (same : ∀ one other, view (combine one other) = own one) :
    (List.zipWith combine first second).map view = first.map own := by
  induction first generalizing second with
  | nil => rfl
  | cons one rest ih =>
    cases second with
    | nil => cases lengths
    | cons other others =>
      rw [List.zipWith_cons_cons, List.map_cons, List.map_cons, same,
        ih (by simpa using lengths)]

/-- A view of combined entries that sees only what comes from the second list. -/
theorem map_zipWith_right {α β γ δ : Type} {view : γ → δ} {own : β → δ} {combine : α → β → γ}
    {first : List α} {second : List β} (lengths : second.length = first.length)
    (same : ∀ one other, view (combine one other) = own other) :
    (List.zipWith combine first second).map view = second.map own := by
  rw [List.zipWith_comm]
  exact map_zipWith lengths.symm fun other one => same one other

theorem refitPanes_eq (deck : Deck μ σ) :
    ∃ area, area = areaOfPanes deck.settings deck.strip.height deck.bounds.size ∧
      deck.refitPanes = { deck with paneArea := area } :=
  ⟨_, rfl, rfl⟩

section Look

variable [FontMetrics μ]

theorem restyled_remeasure (deck : Deck μ σ) : deck.Restyled deck.remeasure := by
  simp only [remeasure]
  split
  · exact Restyled.refl deck
  · next strip measured =>
    have lengths : strip.tabs.length = deck.tabs.length := by
      rw [Strip.length_tabs_of_measure measured, List.length_map]
    exact ⟨_, _, strip, _, _, deck.row.stripWidth, _, _, rfl,
      map_zipWith lengths fun _ _ => rfl⟩

/-- Icons are shown if there is one for each tab. The tabs change in nothing else, and the strip is
measured and arranged anew. -/
theorem showIcons_eq_ok {deck after : Deck μ σ} {icons : List Image} {outcome : Outcome}
    (done : deck.showIcons icons = .ok (outcome, after)) :
    icons.length = deck.tabs.length ∧
      ∃ tabs : List Tab,
        (∀ {β : Type} {part : Tab → β},
          (∀ (tab : Tab) icon, part { tab with icon := some icon } = part tab) →
            tabs.map part = deck.tabs.map part) ∧
        after = ({ deck with tabs, hasIcons := true } : Deck μ σ).remeasure.arrange := by
  simp only [showIcons] at done
  split at done
  · next lengths =>
    cases done
    exact ⟨lengths, _, fun same => map_zipWith lengths same, rfl⟩
  · cases done

theorem outcome_of_showIcons {deck after : Deck μ σ} {icons : List Image} {outcome : Outcome}
    (done : deck.showIcons icons = .ok (outcome, after)) : outcome = after.repaintAll := by
  simp only [showIcons] at done
  split at done <;> cases done
  rfl

theorem restyled_of_showIcons {deck after : Deck μ σ} {icons : List Image} {outcome : Outcome}
    (done : deck.showIcons icons = .ok (outcome, after)) : deck.Restyled after := by
  rcases showIcons_eq_ok done with ⟨-, tabs, labelled, rfl⟩
  refine Restyled.trans ?_ (restyled_arrange _)
  refine Restyled.trans ?_ (restyled_remeasure _)
  exact ⟨_, _, _, _, _, deck.row.stripWidth, _, true, rfl, labelled fun _ _ => rfl⟩

/-- New captions change the look of the strip, and with its height the area of the panes. -/
theorem relabel_eq_ok {deck after : Deck μ σ} {captions : List Caption} {outcome : Outcome}
    (done : deck.relabel captions = .ok (outcome, after)) :
    ∃ mid area, deck.Restyled mid ∧
      (area = areaOfPanes mid.settings mid.strip.height mid.bounds.size ∧
        captions.length = deck.tabs.length ∧ checkCaptions deck.capacity captions = .ok () ∧
        ∃ tabs, tabs = List.zipWith (fun tab caption => { tab with caption }) deck.tabs captions ∧
          mid = ({ deck with tabs } : Deck μ σ).remeasure) ∧
      after = ({ mid with paneArea := area } : Deck μ σ).arrange := by
  simp only [relabel] at done
  split at done
  · next lengths =>
    rw [bind_eq_ok] at done
    rcases done with ⟨_, checked, result⟩
    have panes : (List.zipWith (fun (tab : Tab) caption => { tab with caption })
        deck.tabs captions).map Tab.pane = deck.tabs.map Tab.pane :=
      map_zipWith lengths fun _ _ => rfl
    generalize List.zipWith (fun (tab : Tab) caption => { tab with caption }) deck.tabs captions =
      tabs at result panes
    have restyled := (restyled_tabs panes).trans (restyled_remeasure { deck with tabs })
    generalize measured : ({ deck with tabs } : Deck μ σ).remeasure = mid at result restyled
    rcases mid.refitPanes_eq with ⟨area, areaOf, refitted⟩
    rw [refitted] at result
    cases result
    exact ⟨mid, area, restyled, ⟨areaOf, lengths, checked, tabs, rfl, measured.symm⟩, rfl⟩
  · cases done

theorem outcome_of_relabel {deck after : Deck μ σ} {captions : List Caption} {outcome : Outcome}
    (done : deck.relabel captions = .ok (outcome, after)) : outcome = after.repaintAll := by
  simp only [relabel] at done
  split at done
  · rw [bind_eq_ok] at done
    rcases done with ⟨_, -, result⟩
    cases result
    rfl
  · cases done

end Look

theorem restyled_paintTab (deck : Deck μ σ) (index : Nat) (colour : Option Colour) :
    deck.Restyled (deck.paintTab index colour).2 := by
  simp only [paintTab]
  split
  · exact Restyled.refl deck
  · next tab present => exact restyled_tabs (map_set present rfl)

/-- The arrows can be tapped as the deck is enabled. -/
def enableArrows (deck : Deck μ σ) (enabled : Bool) : Deck μ σ :=
  { deck with
    arrows := deck.arrows.map fun arrows =>
      arrows.enableFor deck.active deck.tabs.length enabled }

theorem restyled_enableArrows (deck : Deck μ σ) (enabled : Bool) :
    deck.Restyled (deck.enableArrows enabled) :=
  ⟨_, _, _, _, _, deck.row.stripWidth, _, _, rfl, rfl⟩

theorem restyled_usePalette (deck : Deck μ σ) (palette : Palette) :
    deck.Restyled (deck.usePalette palette).2 :=
  ⟨palette, _, _, _, _, deck.row.stripWidth, _, _, rfl, rfl⟩

end Deck

end TabDeck
