import TabDeck.Colour
import TabDeck.Deck.Arrangement
import TabDeck.Deck.Basic
import TabDeck.Deck.Keyboard
import TabDeck.Deck.Operations
import TabDeck.Deck.Painting
import TabDeck.Deck.Pointer
import TabDeck.Deck.Session
import TabDeck.Error
import TabDeck.Font
import TabDeck.Font.BuiltIn
import TabDeck.Geometry
import TabDeck.Gesture
import TabDeck.Input
import TabDeck.KeyFocus
import TabDeck.Outcome
import TabDeck.Palette
import TabDeck.PaneHost
import TabDeck.PaneRow
import TabDeck.Picture.Canvas
import TabDeck.Picture.Shape
import TabDeck.Ring
import TabDeck.Settings
import TabDeck.Settings.Stored
import TabDeck.Simulator.DemoPanes
import TabDeck.Simulator.Log
import TabDeck.Simulator.Program
import TabDeck.Strip.Basic
import TabDeck.Strip.Caption
import TabDeck.Strip.Placement
import TabDeck.Touching
import TabDeck.Word
import TabDeck.Proofs.Frames
import TabDeck.Proofs.NearestPane
import TabDeck.Proofs.Operations
import TabDeck.Proofs.Motion
import TabDeck.Proofs.Coherence
import TabDeck.Proofs.Holding
import TabDeck.Proofs.Totality
import TabDeck.Proofs.Notices
import TabDeck.Proofs.Repainting
import TabDeck.Proofs.Constancy
import TabDeck.Proofs.Resting
import TabDeck.Proofs.Settling
import TabDeck.Proofs.Landing
import TabDeck.Proofs.Mounting
import TabDeck.Proofs.FocusOwner
import TabDeck.Proofs.Moves
import TabDeck.Proofs.StripGeometry
import TabDeck.Proofs.PaneArea
import TabDeck.Proofs.PaneRequests
import TabDeck.Proofs.Admission
import TabDeck.Proofs.CallingOff
import TabDeck.Proofs.StripColumns
import TabDeck.Proofs.StripView
import TabDeck.Proofs.FocusSignals
import TabDeck.Proofs.Dormancy
import TabDeck.Proofs.StoredForm
import TabDeck.Proofs.TapTargets
import TabDeck.Proofs.Translation
import TabDeck.Proofs.Modes
import TabDeck.Proofs.RingSearch
import TabDeck.Proofs.ArrowTaps
import TabDeck.Proofs.StripEnds
import TabDeck.Proofs.SettleCourse
import TabDeck.Proofs.TapBounds
import TabDeck.Proofs.EqualShares
import TabDeck.Proofs.StripLayout
import TabDeck.Proofs.EnoughWidth
import TabDeck.Proofs.Pixels
import TabDeck.Proofs.Coverage
import TabDeck.Proofs.DrawnArea
import TabDeck.Proofs.RowOperations
import TabDeck.Proofs.SampledDrags
import TabDeck.Proofs.KeyTours
import TabDeck.Proofs.CaptionRoom
import TabDeck.Proofs.GatheredOutcomes
import TabDeck.Proofs.StrideRounding
import TabDeck.Proofs.DragOwnership
import TabDeck.Proofs.SimulatorSessions
import TabDeck.Proofs.Rebuilding
import TabDeck.Proofs.TouchDistance
import TabDeck.Proofs.FirstOpenTab
