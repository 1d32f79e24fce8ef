import TabDeck.Proofs.Frames

/-!
# Decks that move in step

Two decks that differ only in where they are do the same, each at its own place. Both are followed
through one operation at a time: `InStep` relates two computations that break off together or end
with related results, and steps that are alike stay alike in sequence. The geometry of a deck is
kept relative to its corner, so that a relocated deck (`Deck.relocate`) differs in its bounds and in
its host only. This file has the requests that go to the hosts; `TabDeck.Proofs.Translation` has the
operations made of them.
-/

namespace TabDeck

/-! ## Computations that end alike -/

/-- Two computations both end, with related results, or break off with the same error. -/
inductive InStep {ε α β : Type} (related : α → β → Prop) : Except ε α → Except ε β → Prop where
  | ended {first : α} {second : β} (relates : related first second) :
      InStep related (.ok first) (.ok second)
  | brokenOff (error : ε) : InStep related (.error error) (.error error)

/-- Results with the same first part whose second parts are related. -/
inductive SameFirst {ι α β : Type} (related : α → β → Prop) : ι × α → ι × β → Prop where
  | intro (value : ι) {first : α} {second : β} (relates : related first second) :
      SameFirst related (value, first) (value, second)

/-- Choices with the same condition are related if both branches are. -/
theorem related_ite {α β : Type} {related : α → β → Prop} {condition : Prop} [Decidable condition]
    {first third : α} {second fourth : β} (yes : related first second) (no : related third fourth) :
    related (if condition then first else third) (if condition then second else fourth) := by
  split
  · exact yes
  · exact no

namespace InStep

variable {ε α β γ δ : Type} {related : α → β → Prop} {final : γ → δ → Prop}

theorem bind {first : Except ε α} {second : Except ε β} {next : α → Except ε γ}
    {other : β → Except ε δ} (earlier : InStep related first second)
    (later : ∀ value also, related value also → InStep final (next value) (other also)) :
    InStep final (first >>= next) (second >>= other) := by
  cases earlier with
  | ended relates => exact later _ _ relates
  | brokenOff error => exact .brokenOff error

/-- Computations that begin with the same step are alike if they are after it. -/
theorem bind_same (first : Except ε α) {next : α → Except ε γ} {other : α → Except ε δ}
    (later : ∀ value, InStep final (next value) (other value)) :
    InStep final (first >>= next) (first >>= other) := by
  cases first with
  | ok value => exact later value
  | error error => exact .brokenOff error

theorem ite {condition : Prop} [Decidable condition] {first third : Except ε α}
    {second fourth : Except ε β} (yes : InStep related first second)
    (no : InStep related third fourth) :
    InStep related (if condition then first else third) (if condition then second else fourth) :=
  related_ite yes no

/-- Loops whose steps are alike are alike. -/
theorem foldlM {ι : Type} {step : α → ι → Except ε α} {other : β → ι → Except ε β}
    (each : ∀ {before also} item, related before also →
      InStep related (step before item) (other also item))
    (items : List ι) {before : α} {also : β} (start : related before also) :
    InStep related (items.foldlM step before) (items.foldlM other also) := by
  induction items generalizing before also with
  | nil => exact .ended start
  | cons item rest ih =>
    rw [List.foldlM_cons, List.foldlM_cons]
    exact (each item start).bind fun _ _ later => ih later

end InStep

/-! ## Displacements -/

theorem Point.add_right_comm (first second third : Point) :
    first + second + third = first + third + second := by
  show Point.mk (first.x + second.x + third.x) (first.y + second.y + third.y) =
    Point.mk (first.x + third.x + second.x) (first.y + third.y + second.y)
  rw [Int.add_right_comm first.x, Int.add_right_comm first.y]

theorem Point.add_sub_add_right (first second third : Point) :
    first + third - (second + third) = first - second := by
  show Point.mk (first.x + third.x - (second.x + third.x))
    (first.y + third.y - (second.y + third.y)) = Point.mk (first.x - second.x) (first.y - second.y)
  rw [Int.add_sub_add_right, Int.add_sub_add_right]

theorem Rect.shiftBy_add (rect : Rect) (first second : Point) :
    rect.shiftBy (first + second) = (rect.shiftBy first).shiftBy second := by
  rw [Rect.mk.injEq]
  refine ⟨?_, rfl⟩
  show rect.origin + (first + second) = rect.origin + first + second
  rw [Point.add_comm, Point.add_right_comm, Point.add_comm first]

theorem Rect.shiftBy_right_comm (rect : Rect) (first second : Point) :
    (rect.shiftBy first).shiftBy second = (rect.shiftBy second).shiftBy first := by
  rw [Rect.mk.injEq]
  exact ⟨Point.add_right_comm .., rfl⟩

/-- The hull of rectangles moves along with them. -/
theorem Rect.hull_shiftBy (first second : Rect) (offset : Point) :
    (first.shiftBy offset).hull (second.shiftBy offset) = (first.hull second).shiftBy offset := by
  have columns (left right : Int) :
      max (left + offset.x) (right + offset.x) = max left right + offset.x := by omega
  have least (left right : Int) :
      min (left + offset.x) (right + offset.x) = min left right + offset.x := by omega
  have rows (left right : Int) :
      max (left + offset.y) (right + offset.y) = max left right + offset.y := by omega
  have upper (left right : Int) :
      min (left + offset.y) (right + offset.y) = min left right + offset.y := by omega
  simp only [hull, right, bottom, shiftBy, Point.add_x, Point.add_y, Int.add_right_comm _ offset.x,
    Int.add_right_comm _ offset.y, columns, least, rows, upper, Int.add_sub_add_right]
  rfl

theorem joinRegions_shiftBy (first second : Option Rect) (offset : Point) :
    joinRegions (first.map fun region => region.shiftBy offset)
        (second.map fun region => region.shiftBy offset) =
      (joinRegions first second).map fun region => region.shiftBy offset := by
  cases first with
  | none => simp
  | some first =>
    cases second with
    | none => rfl
    | some second => simp [joinRegions, Rect.hull_shiftBy]

namespace Outcome

/-- The same outcome at another place. -/
def shiftBy (outcome : Outcome) (offset : Point) : Outcome :=
  { outcome with dirty := outcome.dirty.map fun region => region.shiftBy offset }

variable (offset : Point)

@[simp] theorem shiftBy_nothing : nothing.shiftBy offset = nothing := rfl

@[simp] theorem shiftBy_usedUp : usedUp.shiftBy offset = usedUp := rfl

@[simp] theorem shiftBy_repaint (region : Rect) :
    (repaint region).shiftBy offset = repaint (region.shiftBy offset) := rfl

theorem shiftBy_andThen (first second : Outcome) :
    (first.andThen second).shiftBy offset =
      (first.shiftBy offset).andThen (second.shiftBy offset) := by
  simp only [andThen, shiftBy, joinRegions_shiftBy]

end Outcome

/-! ## Hosts that answer alike -/

/-- The same request at another place. -/
def PaneCall.shiftBy (offset : Point) : PaneCall → PaneCall
  | .mount handle rect => .mount handle (rect.shiftBy offset)
  | .move handle corner => .move handle (corner + offset)
  | call => call

/-- Two hosts that stay related while one gets the requests of the other at another place, and give
the same answers. -/
structure HostsAlike {σ τ : Type} [PaneHost σ] [PaneHost τ] (offset : Point)
    (related : σ → τ → Prop) : Prop where
  create : ∀ {host also}, related host also → ∀ tab,
    (PaneHost.create also tab).1 = (PaneHost.create host tab).1 ∧
      related (PaneHost.create host tab).2 (PaneHost.create also tab).2
  mount : ∀ {host also}, related host also → ∀ handle rect,
    related (PaneHost.mount host handle rect) (PaneHost.mount also handle (rect.shiftBy offset))
  unmount : ∀ {host also}, related host also → ∀ handle,
    related (PaneHost.unmount host handle) (PaneHost.unmount also handle)
  move : ∀ {host also}, related host also → ∀ handle corner,
    related (PaneHost.move host handle corner) (PaneHost.move also handle (corner + offset))
  takeFocus : ∀ {host also}, related host also → ∀ handle forward,
    (PaneHost.takeFocus also handle forward).1 = (PaneHost.takeFocus host handle forward).1 ∧
      related (PaneHost.takeFocus host handle forward).2 (PaneHost.takeFocus also handle forward).2

/-- Two links to related hosts, which got the same requests at different places. -/
structure LinksAlike {σ τ : Type} (offset : Point) (related : σ → τ → Prop) (link : PaneLink σ)
    (moved : PaneLink τ) : Prop where
  hosts : related link.host moved.host
  calls : moved.calls = link.calls.map (PaneCall.shiftBy offset)

namespace LinksAlike

variable {σ τ : Type} [PaneHost σ] [PaneHost τ] {offset : Point} {related : σ → τ → Prop}
  {link : PaneLink σ} {moved : PaneLink τ}

theorem create (links : LinksAlike offset related link moved) (hosts : HostsAlike offset related)
    (tab : Nat) :
    (moved.create tab).1 = (link.create tab).1 ∧
      LinksAlike offset related (link.create tab).2 (moved.create tab).2 := by
  rcases hosts.create links.hosts tab with ⟨same, later⟩
  refine ⟨same, later, ?_⟩
  simp only [PaneLink.create, links.calls, List.map_cons, PaneCall.shiftBy, same]

theorem mount (links : LinksAlike offset related link moved) (hosts : HostsAlike offset related)
    (handle : PaneId) (rect : Rect) :
    LinksAlike offset related (link.mount handle rect)
      (moved.mount handle (rect.shiftBy offset)) := by
  refine ⟨hosts.mount links.hosts handle rect, ?_⟩
  simp only [PaneLink.mount, links.calls, List.map_cons, PaneCall.shiftBy]

theorem unmount (links : LinksAlike offset related link moved) (hosts : HostsAlike offset related)
    (handle : PaneId) :
    LinksAlike offset related (link.unmount handle) (moved.unmount handle) := by
  refine ⟨hosts.unmount links.hosts handle, ?_⟩
  simp only [PaneLink.unmount, links.calls, List.map_cons, PaneCall.shiftBy]

theorem move (links : LinksAlike offset related link moved) (hosts : HostsAlike offset related)
    (handle : PaneId) (corner : Point) :
    LinksAlike offset related (link.move handle corner) (moved.move handle (corner + offset)) := by
  refine ⟨hosts.move links.hosts handle corner, ?_⟩
  simp only [PaneLink.move, links.calls, List.map_cons, PaneCall.shiftBy]

theorem takeFocus (links : LinksAlike offset related link moved)
    (hosts : HostsAlike offset related) (handle : PaneId) (forward : Bool) :
    (moved.takeFocus handle forward).1 = (link.takeFocus handle forward).1 ∧
      LinksAlike offset related (link.takeFocus handle forward).2
        (moved.takeFocus handle forward).2 := by
  rcases hosts.takeFocus links.hosts handle forward with ⟨same, later⟩
  refine ⟨same, later, ?_⟩
  simp only [PaneLink.takeFocus, links.calls, List.map_cons, PaneCall.shiftBy, same]

end LinksAlike

/-! ## Relocated decks -/

namespace Deck

variable {μ σ τ : Type}

/-- The same deck at another place, with another host. -/
def relocate (deck : Deck μ σ) (offset : Point) (link : PaneLink τ) : Deck μ τ :=
  { deck with bounds := deck.bounds.shiftBy offset, link }

/-- The deck as it would be at another place, with a host that was asked the same. -/
def Relocated (offset : Point) (related : σ → τ → Prop) (deck : Deck μ σ) (moved : Deck μ τ) :
    Prop :=
  ∃ link, LinksAlike offset related deck.link link ∧ moved = deck.relocate offset link

section Parts

variable (deck : Deck μ σ) (offset : Point) (link : PaneLink τ) (index : Nat)

@[simp] theorem relocate_link : (deck.relocate offset link).link = link := rfl

@[simp] theorem relocate_settings : (deck.relocate offset link).settings = deck.settings := rfl

@[simp] theorem relocate_tabs : (deck.relocate offset link).tabs = deck.tabs := rfl

@[simp] theorem relocate_row : (deck.relocate offset link).row = deck.row := rfl

@[simp] theorem relocate_gesture : (deck.relocate offset link).gesture = deck.gesture := rfl

@[simp] theorem relocate_focus : (deck.relocate offset link).focus = deck.focus := rfl

@[simp] theorem relocate_active : (deck.relocate offset link).active = deck.active := rfl

@[simp] theorem relocate_pressed : (deck.relocate offset link).pressed = deck.pressed := rfl

@[simp] theorem relocate_laidOut : (deck.relocate offset link).laidOut = deck.laidOut := rfl

@[simp] theorem relocate_enabled : (deck.relocate offset link).enabled = deck.enabled := rfl

@[simp] theorem relocate_wantedWidth :
    (deck.relocate offset link).wantedWidth = deck.wantedWidth := rfl

@[simp] theorem relocate_bounds :
    (deck.relocate offset link).bounds = deck.bounds.shiftBy offset := rfl

@[simp] theorem relocate_disabledFlags :
    (deck.relocate offset link).disabledFlags = deck.disabledFlags := rfl

@[simp] theorem relocate_blockedFlags :
    (deck.relocate offset link).blockedFlags = deck.blockedFlags := rfl

@[simp] theorem relocate_isBlocked :
    (deck.relocate offset link).isBlocked index = deck.isBlocked index := rfl

@[simp] theorem relocate_paneRect :
    (deck.relocate offset link).paneRect = deck.paneRect.shiftBy offset := by
  simp only [paneRect, relocate, Rect.shiftBy, Point.add_right_comm _ offset]

@[simp] theorem relocate_paneBounds :
    (deck.relocate offset link).paneBounds index = (deck.paneBounds index).shiftBy offset := by
  simp only [paneBounds, relocate_paneRect, relocate_settings, relocate_row]
  split
  · exact Rect.shiftBy_right_comm ..
  · rfl

@[simp] theorem relocate_stripBand :
    (deck.relocate offset link).stripBand = deck.stripBand.shiftBy offset := by
  rw [Rect.mk.injEq]
  exact ⟨Point.add_right_comm .., rfl⟩

theorem relocate_repaintAll :
    (deck.relocate offset link).repaintAll = deck.repaintAll.shiftBy offset := rfl

theorem relocate_repaintStrip :
    (deck.relocate offset link).repaintStrip = deck.repaintStrip.shiftBy offset := by
  simp [repaintStrip]

theorem relocate_repaintPanes :
    (deck.relocate offset link).repaintPanes = deck.repaintPanes.shiftBy offset := by
  simp [repaintPanes]

theorem relocate_tabRect :
    (deck.relocate offset link).tabRect index =
      (deck.tabRect index).map fun rect => rect.shiftBy offset := by
  simp only [tabRect, Option.map_map]
  apply congrArg (fun place => Option.map place deck.stripRects[index]?)
  funext rect
  exact Rect.shiftBy_add ..

theorem relocate_visibleArrows :
    (deck.relocate offset link).visibleArrows =
      deck.visibleArrows.map fun arrows => arrows.shiftBy offset := by
  simp only [visibleArrows, Option.map_map]
  apply congrArg (fun place => Option.map place deck.arrows)
  funext arrows
  simp only [relocate_bounds, Rect.shiftBy_origin, Function.comp_apply, Arrows.shiftBy,
    Rect.shiftBy_add]

theorem relocate_captionLimit :
    (deck.relocate offset link).captionLimit = deck.captionLimit + offset.x :=
  Int.add_right_comm ..

end Parts

/-! ## The geometry of relocated decks -/

section Geometry

variable (deck : Deck μ σ) (offset : Point) (link : PaneLink τ)

theorem relocate_remeasure [FontMetrics μ] :
    (deck.relocate offset link).remeasure = deck.remeasure.relocate offset link := by
  simp only [remeasure, relocate, Rect.shiftBy_size]
  split <;> rfl

theorem relocate_refitPanes :
    (deck.relocate offset link).refitPanes = deck.refitPanes.relocate offset link := by
  have refitted (area : Rect) : ({ deck.relocate offset link with paneArea := area } : Deck μ τ) =
      ({ deck with paneArea := area } : Deck μ σ).relocate offset link := rfl
  exact refitted _

theorem relocate_arrange :
    (deck.relocate offset link).arrange = deck.arrange.relocate offset link := by
  simp only [arrange, neededArrows, neededShift, overflows, wantedWidth, relocate,
    Rect.shiftBy_size]
  rfl

variable {deck} {offset} {related : σ → τ → Prop} {moved : Deck μ τ}
  (relocated : Relocated offset related deck moved)

include relocated

theorem Relocated.remeasure [FontMetrics μ] :
    Relocated offset related deck.remeasure moved.remeasure := by
  rcases relocated with ⟨link, links, rfl⟩
  rcases restyled_remeasure deck with ⟨_, _, _, _, _, _, _, _, remeasured, -⟩
  refine ⟨link, ?_, relocate_remeasure ..⟩
  rwa [remeasured]

theorem Relocated.refitPanes : Relocated offset related deck.refitPanes moved.refitPanes := by
  rcases relocated with ⟨link, links, rfl⟩
  rcases deck.refitPanes_eq with ⟨area, -, refitted⟩
  refine ⟨link, ?_, relocate_refitPanes ..⟩
  rwa [refitted]

theorem Relocated.arrange : Relocated offset related deck.arrange moved.arrange := by
  rcases relocated with ⟨link, links, rfl⟩
  rcases restyled_arrange deck with ⟨_, _, _, _, _, _, _, _, arranged, -⟩
  refine ⟨link, ?_, relocate_arrange ..⟩
  rwa [arranged]

theorem Relocated.repaintAll : moved.repaintAll = deck.repaintAll.shiftBy offset := by
  rcases relocated with ⟨link, links, rfl⟩
  rfl

end Geometry

/-! ## Requests from relocated decks -/

section Requests

variable [PaneHost σ] [PaneHost τ] {offset : Point} {related : σ → τ → Prop} {deck : Deck μ σ}
  {moved : Deck μ τ} (hosts : HostsAlike offset related)
  (relocated : Relocated offset related deck moved) (index : Nat)

include hosts relocated

theorem inStep_unmountPane :
    InStep (Relocated offset related) (deck.unmountPane index) (moved.unmountPane index) := by
  rcases relocated with ⟨link, links, rfl⟩
  simp only [unmountPane, relocate_tabs]
  apply InStep.bind_same
  intro tab
  cases tab.pane with
  | some handle => exact .ended ⟨_, links.unmount hosts handle, rfl⟩
  | none => exact .ended ⟨link, links, rfl⟩

theorem inStep_paneOf :
    InStep (SameFirst (Relocated offset related)) (deck.paneOf index) (moved.paneOf index) := by
  rcases relocated with ⟨link, links, rfl⟩
  simp only [paneOf, relocate_tabs]
  apply InStep.bind_same
  intro tab
  cases tab.pane with
  | some handle => exact .ended (.intro handle ⟨link, links, rfl⟩)
  | none =>
    rcases links.create hosts index with ⟨same, later⟩
    simp only [relocate_link, same]
    exact .ended (.intro _ ⟨_, later, rfl⟩)

theorem inStep_mountPane :
    InStep (Relocated offset related) (deck.mountPane index) (moved.mountPane index) := by
  apply (inStep_paneOf hosts relocated index).bind
  rintro _ _ ⟨handle, link, links, rfl⟩
  refine .ended ⟨_, links.mount hosts handle (paneBounds _ index), ?_⟩
  simp only [relocate_link, relocate_paneBounds]
  rfl

theorem inStep_movePane :
    InStep (Relocated offset related) (deck.movePane index) (moved.movePane index) := by
  apply (inStep_paneOf hosts relocated index).bind
  rintro _ _ ⟨handle, link, links, rfl⟩
  refine .ended ⟨_, links.move hosts handle (paneBounds _ index).origin, ?_⟩
  simp only [relocate_link, relocate_paneBounds]
  rfl

theorem inStep_mountAll :
    InStep (Relocated offset related) deck.mountAll moved.mountAll := by
  have tabs : moved.tabs = deck.tabs := by
    rcases relocated with ⟨link, links, rfl⟩
    rfl
  simp only [mountAll, tabs]
  exact InStep.foldlM (fun index relocated => inStep_mountPane hosts relocated index) _ relocated

theorem inStep_moveAll :
    InStep (Relocated offset related) deck.moveAll moved.moveAll := by
  have same : moved.tabs = deck.tabs ∧ moved.settings = deck.settings ∧
      moved.laidOut = deck.laidOut := by
    rcases relocated with ⟨link, links, rfl⟩
    exact ⟨rfl, rfl, rfl⟩
  simp only [moveAll, same]
  split
  · exact InStep.foldlM (fun index relocated => inStep_movePane hosts relocated index) _ relocated
  · exact .ended relocated

end Requests

end Deck

end TabDeck
