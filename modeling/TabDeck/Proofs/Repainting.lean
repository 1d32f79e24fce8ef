import TabDeck.Deck.Painting
import TabDeck.Proofs.Holding
import TabDeck.Simulator.DemoPanes

/-!
# When nothing has to be painted anew

An outcome without a region to paint promises that the deck still looks as it did. What is painted
is left alone then by every operation but one: a finger that comes down lets go of the tab that was
pressed before, and where it does nothing else, no region tells that the tab has its usual fill
again.
-/

namespace TabDeck

/-- A tab apart from its pane, as it is painted. -/
def Tab.face (tab : Tab) : Tab := { tab with pane := none }

namespace Deck

/-- The region to paint anew after an action. A refusal leaves everything as it was. -/
def regionToPaint : Answer → Option Rect
  | .ok outcome => outcome.dirty
  | .error _ => none

variable {μ σ : Type}

/-- The decks differ in nothing that is painted. -/
def SameLook (before after : Deck μ σ) : Prop :=
  ∃ link tabs gesture row, after = { before with link, tabs, gesture, row } ∧
    tabs.map Tab.face = before.tabs.map Tab.face

/-- The deck with no tab pressed. -/
def withoutPress (deck : Deck μ σ) : Deck μ σ := { deck with pressed := none }

/-- A finger comes down while a tab is pressed already. -/
def DropsPress (deck : Deck μ σ) (action : Action) : Prop :=
  deck.enabled = true ∧ deck.pressed.isSome = true ∧ ∃ touch, action = .input (.press touch)

/-- The fill of the pressed tab can be seen: without the press, some canvas is painted otherwise. -/
def PressShows (deck : Deck FontPair σ) : Prop :=
  ∃ canvas : Canvas, canvas.draw deck.withoutPress.picture ≠ canvas.draw deck.picture

/-! ## What the picture depends on -/

section Picture

variable {before after deck : Deck FontPair σ}

/-- The pane of a tab is not painted. -/
theorem tabPicture_eq (index : Nat) (isActive : Bool) :
    deck.tabPicture index isActive =
      match deck.tabRect index, deck.tabs[index]?.map Tab.face with
      | some rect, some tab =>
        let base := tab.colour.getD deck.palette.tab
        deck.bodyPicture rect (deck.tabFill index base isActive) base isActive ++
          deck.captionPicture rect tab isActive
      | _, _ => [] := by
  simp only [tabPicture]
  cases deck.tabRect index <;> cases deck.tabs[index]? <;> rfl

theorem tabColour_eq (index : Nat) :
    deck.tabColour index =
      (deck.tabs[index]?.map Tab.face).map fun tab => tab.colour.getD deck.palette.tab := by
  rw [tabColour, Option.map_map]
  rfl

theorem SameLook.tabs_face (same : before.SameLook after) (index : Nat) :
    after.tabs[index]?.map Tab.face = before.tabs[index]?.map Tab.face := by
  rcases same with ⟨_, tabs, _, _, rfl, faces⟩
  rw [← List.getElem?_map, ← List.getElem?_map]
  exact congrArg (fun faces => faces[index]?) faces

theorem SameLook.tabPicture (same : before.SameLook after) (index : Nat) (isActive : Bool) :
    after.tabPicture index isActive = before.tabPicture index isActive := by
  rw [tabPicture_eq, tabPicture_eq, same.tabs_face]
  rcases same with ⟨_, _, _, _, rfl, -⟩
  rfl

theorem SameLook.tabColour (same : before.SameLook after) (index : Nat) :
    after.tabColour index = before.tabColour index := by
  rw [tabColour_eq, tabColour_eq, same.tabs_face]
  rcases same with ⟨_, _, _, _, rfl, -⟩
  rfl

theorem SameLook.stripPicture (same : before.SameLook after) (active : Nat) :
    after.stripPicture active = before.stripPicture active := by
  have length : after.tabs.length = before.tabs.length := by
    rcases same with ⟨_, _, _, _, rfl, faces⟩
    have lengths := congrArg List.length faces
    rwa [List.length_map, List.length_map] at lengths
  have clip : after.stripClip = before.stripClip := by
    rcases same with ⟨_, _, _, _, rfl, -⟩
    rfl
  simp only [Deck.stripPicture, length, clip, same.tabPicture]

/-- Decks that look the same paint the same. -/
theorem SameLook.picture (same : before.SameLook after) : after.picture = before.picture := by
  have parts : after.active = before.active ∧ after.bounds = before.bounds ∧
      after.palette = before.palette ∧ after.framePicture = before.framePicture ∧
      after.arrowPicture = before.arrowPicture ∧ after.focusPicture = before.focusPicture := by
    rcases same with ⟨_, _, _, _, rfl, -⟩
    exact ⟨rfl, rfl, rfl, rfl, rfl, rfl⟩
  rcases parts with ⟨active, bounds, palette, frame, arrows, focus⟩
  simp only [Deck.picture, active, bounds, palette, frame, arrows, focus, same.tabColour,
    same.stripPicture]

end Picture

/-! ## Operations that ask for nothing to be painted -/

namespace SameLook

variable {before after deck : Deck μ σ}

theorem refl (deck : Deck μ σ) : deck.SameLook deck :=
  ⟨deck.link, deck.tabs, deck.gesture, deck.row, rfl, rfl⟩

theorem trans {first second third : Deck μ σ} (earlier : first.SameLook second)
    (later : second.SameLook third) : first.SameLook third := by
  rcases earlier with ⟨_, _, _, _, rfl, faces⟩
  rcases later with ⟨link, tabs, gesture, row, rfl, same⟩
  exact ⟨link, tabs, gesture, row, rfl, same.trans faces⟩

theorem of_served (served : before.Served after) : before.SameLook after := by
  rcases served with ⟨link, tabs, rfl, filled⟩
  exact ⟨link, tabs, before.gesture, before.row, rfl, filled.map_eq fun _ _ => rfl⟩

theorem of_row (deck : Deck μ σ) (gesture : Gesture) (row : PaneRow) :
    deck.SameLook { deck with gesture, row } :=
  ⟨deck.link, deck.tabs, gesture, row, rfl, rfl⟩

/-- Where nothing is pressed, nothing is let go of. -/
theorem of_withoutPress (unpressed : deck.pressed = none) : deck.SameLook deck.withoutPress := by
  have same : deck.withoutPress = deck := by
    rw [withoutPress, ← unpressed]
  rw [same]
  exact refl deck

variable [PaneHost σ] {outcome : Outcome} {index : Nat}

/-- A selection that asks for nothing to be painted selects nothing. -/
theorem eq_of_select (done : deck.select index = .ok (outcome, after))
    (clean : outcome.dirty = none) : after = deck := by
  rcases select_eq_ok done with ⟨same, -⟩ | ⟨-, -, activated⟩
  · exact same
  · rw [outcome_of_activate activated] at clean
    cases clean

theorem eq_of_thenSelect {first : Outcome}
    (done : deck.thenSelect first index = .ok (outcome, after)) (clean : outcome.dirty = none) :
    after = deck ∧ first.dirty = none := by
  rcases thenSelect_eq_ok done with ⟨selection, selected, rfl⟩
  rcases joinRegions_eq_none.mp clean with ⟨firstClean, clean⟩
  exact ⟨eq_of_select selected clean, firstClean⟩

theorem of_enableTab {enabled : Bool}
    (done : deck.enableTab index enabled = .ok (outcome, after)) (clean : outcome.dirty = none) :
    deck.SameLook after := by
  simp only [enableTab] at done
  split at done
  · cases done
    exact refl _
  · split at done
    · cases done
      exact refl _
    · split at done
      · cases (eq_of_thenSelect done clean).2
      · cases done
        cases clean

theorem of_supplyPane {handle : PaneId}
    (done : deck.supplyPane index handle = .ok (outcome, after)) : deck.SameLook after := by
  rcases supplyPane_eq_ok done with rfl | ⟨tab, link, present, rfl, -⟩
  · exact refl after
  · exact ⟨link, _, deck.gesture, deck.row, rfl, map_set present rfl⟩

theorem of_enable {enabled : Bool} (done : deck.enable enabled = .ok (outcome, after))
    (clean : outcome.dirty = none) : deck.SameLook after := by
  rcases outcome_of_enable done with ⟨rfl, -⟩ | rfl
  · exact refl after
  · cases clean

theorem of_abandon (done : deck.abandon = .ok (outcome, after)) (clean : outcome.dirty = none) :
    deck.SameLook after := by
  simp only [abandon, bind_eq_ok] at done
  rcases done with ⟨⟨moved, mid⟩, calledOff, result⟩
  cases result
  have calm : (moved || deck.pressed.isSome) = false := by
    by_contra stirred
    rw [Bool.not_eq_false] at stirred
    rw [stirred] at clean
    cases clean
  rw [Bool.or_eq_false_iff, Option.isSome_eq_false_iff, Option.isNone_iff_eq_none] at calm
  exact (of_withoutPress calm.2).trans
    ((of_row _ _ _).trans (of_served (served_of_callOff calledOff)))

theorem of_tick {elapsed : Nat} (done : deck.tick elapsed = .ok (outcome, after))
    (clean : outcome.dirty = none) : deck.SameLook after := by
  rcases tick_eq_ok done with ⟨progress, gesture, row, -, rest⟩
  cases progress with
  | idle =>
    rw [rest.1]
    exact refl deck
  | moving =>
    rw [rest.2] at clean
    cases clean
  | arrived target =>
    rcases rest with ⟨mid, selection, -, -, rfl⟩
    cases (joinRegions_eq_none.mp clean).1

theorem of_drag {movement : Point} {time : Nat}
    (done : deck.drag movement time = .ok (outcome, after)) (clean : outcome.dirty = none) :
    deck.SameLook after := by
  simp only [drag] at done
  split at done
  · cases done
    exact refl _
  · cases done
    exact refl _
  · rw [bind_eq_ok] at done
    rcases done with ⟨⟨taken, gesture, row⟩, -, done⟩
    cases taken with
    | true =>
      simp only [if_true, bind_eq_ok] at done
      rcases done with ⟨mid, -, result⟩
      cases result
      split at clean <;> cases clean
    | false =>
      cases done
      exact of_row deck gesture row

omit [PaneHost σ] in
theorem of_letGo (deck : Deck μ σ) (earlier : Outcome) :
    deck.SameLook (deck.letGo earlier).2 := by
  cases flicks : deck.settings.flicks with
  | true =>
    rw [(deck.letGo_eq earlier).1 flicks]
    exact of_row deck _ deck.row
  | false =>
    rw [(deck.letGo_eq earlier).2 flicks]
    exact refl deck

omit [PaneHost σ] in
theorem clean_of_letGo {earlier : Outcome} (clean : (deck.letGo earlier).1.dirty = none) :
    earlier.dirty = none := by
  simp only [Deck.letGo] at clean
  split at clean
  · split at clean
    · exact (joinRegions_eq_none.mp clean).1
    · exact clean
  · exact clean

/-- A finger that goes up lets go of a pressed tab only by making it active. -/
theorem of_release (poised : deck.Poised) (done : deck.release = .ok (outcome, after))
    (clean : outcome.dirty = none) : deck.SameLook after := by
  rcases release_eq_select done with ⟨result, mid, letGo, rest⟩
  have outcomes : outcome = (mid.letGo result).1 := by rw [letGo]
  have decks : after = (mid.letGo result).2 := by rw [letGo]
  rw [outcomes] at clean
  rw [decks]
  have cleanResult := clean_of_letGo clean
  apply trans _ (of_letGo mid result)
  rcases rest with ⟨idle, -, rfl⟩ | ⟨index, pressed, -, selected⟩
  · apply of_withoutPress
    rcases idle with unpressed | dragging
    · exact unpressed
    · cases pressed : deck.pressed with
      | none => rfl
      | some index =>
        rw [(poised.held index pressed).2.2] at dragging
        cases dragging
  · rcases poised.held index pressed with ⟨present, inactive, -⟩
    rcases select_eq_ok selected with ⟨-, -, absent | already⟩ | ⟨-, -, activated⟩
    · exact absurd present (Nat.not_lt.mpr absent)
    · exact absurd already inactive
    · rw [outcome_of_activate activated] at cleanResult
      cases cleanResult

/-- A key after which nothing has to be painted anew leaves the look alone. The focus may have moved
in between, when the active pane refuses it. -/
theorem of_handleFocus {event : KeyFocus.Event}
    (done : deck.handleFocus event = .ok (outcome, after)) (clean : outcome.dirty = none) :
    deck.SameLook after := by
  rcases handleFocus_eq_ok done with ⟨-, rfl, -⟩ | ⟨focus, task, inner, -, quiet, -, followed⟩
  · exact refl after
  rcases quiet clean with ⟨cleanInner, kept⟩
  have returns : ∀ place, { deck with focus := place }.Served after → deck.SameLook after := by
    rintro place ⟨link, tabs, rfl, filled⟩
    have same : place = deck.focus := kept
    rw [same]
    exact ⟨link, tabs, deck.gesture, deck.row, rfl, filled.map_eq fun _ _ => rfl⟩
  cases task with
  | changeTab forward =>
    apply returns focus
    rw [(eq_of_thenSelect followed cleanInner).1]
    exact Served.refl _
  | enterPane forward =>
    rcases enterPane_eq_ok followed with ⟨-, rfl⟩ |
      ⟨active, handle, mid, granted, link, -, found, -, enters, refused⟩
    · exact returns _ (Served.refl _)
    · rcases (served_of_paneOf found).1 with ⟨_, tabs, rfl, filled⟩
      cases granted with
      | true => exact returns focus ⟨link, tabs, enters rfl, filled⟩
      | false => exact returns focus.refused ⟨link, tabs, refused rfl, filled⟩
  | nothing | reclaim | release =>
    cases followed
    exact returns focus (Served.refl _)

/-- A finger that comes down lets go of the pressed tab, and changes nothing else without asking. -/
theorem of_press {touch : Touch} (done : deck.press touch = .ok (outcome, after))
    (clean : outcome.dirty = none) : deck.withoutPress.SameLook after := by
  rcases press_eq_tapped done with ⟨point, tapped⟩
  have begun : deck.withoutPress.SameLook (deck.beginGesture point) := by
    simp only [beginGesture]
    split
    · exact of_row deck.withoutPress _ _
    · exact refl deck.withoutPress
  cases tapped with
  | nothing same =>
    rw [same]
    exact begun
  | holds index _ _ _ _ painted =>
    rw [painted] at clean
    cases clean
  | arrow forward selection selected _ painted =>
    rw [eq_of_select selected (painted ▸ clean)]
    exact begun
  | tab index selection _ selected _ painted =>
    rw [eq_of_select selected (painted ▸ clean)]
    exact begun

theorem of_handle (poised : deck.Poised) {event : Input}
    (kept : ¬ deck.DropsPress (.input event)) (done : deck.handle event = .ok (outcome, after))
    (clean : outcome.dirty = none) : deck.SameLook after := by
  rcases handle_eq_ok done with ⟨-, rfl⟩ | ⟨enabled, handled⟩
  · exact refl after
  · cases event with
    | press touch =>
      have unpressed : deck.pressed = none := by
        by_contra pressed
        exact kept ⟨enabled, Option.isSome_iff_ne_none.mpr pressed, touch, rfl⟩
      exact (of_withoutPress unpressed).trans (of_press handled clean)
    | drag touch movement time => exact of_drag handled clean
    | release touch => exact of_release poised handled clean
    | abandon => exact of_abandon handled clean
    | key direction => exact of_handleFocus handled clean
    | action => exact of_handleFocus handled clean
    | focus => exact of_handleFocus handled clean

theorem of_perform [FontMetrics μ] (poised : deck.Poised) {action : Action} {answer : Answer}
    (kept : ¬ deck.DropsPress action) (done : deck.perform action = .ok (answer, after))
    (clean : regionToPaint answer = none) : deck.SameLook after := by
  cases action with
  | showIcons icons =>
    rcases acceptedOr_eq_ok.mp done with ⟨outcome, shown, rfl⟩ | ⟨refusal, -, rfl, -⟩
    · rw [outcome_of_showIcons shown] at clean
      cases clean
    · exact refl after
  | relabel captions =>
    rcases acceptedOr_eq_ok.mp done with ⟨outcome, relabelled, rfl⟩ | ⟨refusal, -, rfl, -⟩
    · rw [outcome_of_relabel relabelled] at clean
      cases clean
    · exact refl after
  | paintTab index colour =>
    rcases accepted_eq_ok.mp done with ⟨outcome, painted, rfl⟩
    simp only [paintTab] at painted
    split at painted
    · cases painted
      exact refl _
    · cases painted
      cases clean
  | usePalette palette =>
    cases done
    cases clean
  | placeAt bounds =>
    rcases accepted_eq_ok.mp done with ⟨outcome, placed, rfl⟩
    exact absurd clean (outcome_of_placeAt placed).2
  | select index =>
    rcases accepted_eq_ok.mp done with ⟨outcome, selected, rfl⟩
    rw [eq_of_select selected clean]
    exact refl deck
  | enableTab index enabled =>
    rcases accepted_eq_ok.mp done with ⟨outcome, changed, rfl⟩
    exact of_enableTab changed clean
  | supplyPane index handle =>
    rcases accepted_eq_ok.mp done with ⟨outcome, supplied, rfl⟩
    exact of_supplyPane supplied
  | enable enabled =>
    rcases accepted_eq_ok.mp done with ⟨outcome, changed, rfl⟩
    exact of_enable changed clean
  | input event =>
    rcases accepted_eq_ok.mp done with ⟨outcome, handled, rfl⟩
    exact of_handle poised kept handled clean
  | abandon =>
    rcases accepted_eq_ok.mp done with ⟨outcome, abandoned, rfl⟩
    exact of_abandon abandoned clean
  | reclaimFocus =>
    rcases accepted_eq_ok.mp done with ⟨outcome, reclaimed, rfl⟩
    exact of_handleFocus reclaimed clean
  | tick elapsed =>
    rcases accepted_eq_ok.mp done with ⟨outcome, ticked, rfl⟩
    exact of_tick ticked clean

/-- What becomes of the pressed tab when a finger comes down, and nothing is painted. -/
theorem of_perform_dropping [FontMetrics μ] {action : Action} {answer : Answer}
    (drops : deck.DropsPress action) (done : deck.perform action = .ok (answer, after))
    (clean : regionToPaint answer = none) : deck.withoutPress.SameLook after := by
  rcases drops with ⟨enabled, -, touch, rfl⟩
  rcases accepted_eq_ok.mp done with ⟨outcome, handled, rfl⟩
  rcases handle_eq_ok handled with ⟨disabled, -⟩ | ⟨-, pressed⟩
  · rw [enabled] at disabled
    cases disabled
  · exact of_press pressed clean

end SameLook

/-! ## Sessions -/

section Sessions

variable [PaneHost σ] {capacity : Nat} {captions : List Caption} {fonts : FontPair} {host : σ}
  {settings : Settings} {start deck after : Deck FontPair σ} {actions : List Action}
  {action : Action} {answer : Answer}

/-- After an action that asks for nothing to be painted every canvas is painted as before, unless
the action is a press that drops the press of another tab, and the fill of that tab shows. -/
theorem unpainted_looks_same_iff
    (made : ofCaptions capacity captions fonts host settings = .ok start)
    (reached : start.Reaches actions deck) (performed : deck.perform action = .ok (answer, after))
    (clean : regionToPaint answer = none) :
    (∀ canvas : Canvas, canvas.draw after.picture = canvas.draw deck.picture) ↔
      ¬ (deck.DropsPress action ∧ deck.PressShows) := by
  have poised : deck.Poised := reached.poised (coherent_ofCaptions made) (poised_ofCaptions made)
  by_cases drops : deck.DropsPress action
  · rw [(SameLook.of_perform_dropping drops performed clean).picture]
    constructor
    · rintro same ⟨-, canvas, differs⟩
      exact differs (same canvas)
    · intro hidden canvas
      by_contra differs
      exact hidden ⟨drops, canvas, differs⟩
  · rw [(SameLook.of_perform poised drops performed clean).picture]
    exact iff_of_true (fun _ => rfl) fun shows => drops shows.1

end Sessions

/-! ## A press that drops another -/

/-- A font whose characters are single pixels. -/
def pixelFont : FontPair := ⟨⟨1, 1, 0, .blocks⟩, none⟩

/-- Two flat tabs with small images are placed. -/
def twoFlatTabs : List Caption := List.replicate 2 (.image ⟨0, ⟨1, 1⟩⟩)

/-- A finger that comes down on the active tab leaves everything as it is. -/
theorem looks_same_after_tap_on_active :
    ∃ start deck after : Deck FontPair DemoPanes, ∃ answer,
      ofCaptions 8 twoFlatTabs pixelFont {} { style := .material } = .ok start ∧
      start.Reaches [.placeAt ⟨⟨0, 0⟩, ⟨40, 20⟩⟩] deck ∧
      deck.perform (.input (.press ⟨5, 2⟩)) = .ok (answer, after) ∧
      regionToPaint answer = none ∧
      ∀ canvas : Canvas, canvas.draw after.picture = canvas.draw deck.picture := by
  obtain ⟨start, deck, after, answer, made, reached, performed, clean, unpressed⟩ :
      ∃ start deck after : Deck FontPair DemoPanes, ∃ answer,
        ofCaptions 8 twoFlatTabs pixelFont {} { style := .material } = .ok start ∧
        start.Reaches [.placeAt ⟨⟨0, 0⟩, ⟨40, 20⟩⟩] deck ∧
        deck.perform (.input (.press ⟨5, 2⟩)) = .ok (answer, after) ∧
        regionToPaint answer = none ∧ deck.pressed = none :=
    ⟨_, _, _, _, rfl, ⟨_, rfl⟩, rfl, rfl, rfl⟩
  refine ⟨start, deck, after, answer, made, reached, performed, clean, ?_⟩
  apply (unpainted_looks_same_iff made reached performed clean).mpr
  rintro ⟨⟨-, pressed, -⟩, -⟩
  rw [unpressed] at pressed
  cases pressed

/-- A finger presses the second tab, and the next one comes down beside the strip. -/
theorem press_fades_unpainted :
    ∃ start deck after : Deck FontPair DemoPanes, ∃ answer,
      ofCaptions 8 twoFlatTabs pixelFont {} { style := .material } = .ok start ∧
      start.Reaches [.placeAt ⟨⟨0, 0⟩, ⟨40, 20⟩⟩, .input (.press ⟨20, 2⟩)] deck ∧
      deck.perform (.input (.press ⟨20, 15⟩)) = .ok (answer, after) ∧
      regionToPaint answer = none ∧
      ((Canvas.filled ⟨26, 1⟩ .black).draw after.picture).get? ⟨20, 0⟩ ≠
        ((Canvas.filled ⟨26, 1⟩ .black).draw deck.picture).get? ⟨20, 0⟩ :=
  ⟨_, _, _, _, rfl, ⟨_, rfl⟩, rfl, rfl, by decide +kernel⟩

end Deck

end TabDeck
