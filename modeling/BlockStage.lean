import BlockStage.Controls.Board
import BlockStage.Demo.Dialog
import BlockStage.Demo.InputBox
import BlockStage.Demo.Touching
import BlockStage.Demo.Typing
import BlockStage.Main
import BlockStage.Proofs.Clone.Deletion
import BlockStage.Proofs.Clone.Source
import BlockStage.Proofs.Controls.PressTimes
import BlockStage.Proofs.Controls.Smoothing
import BlockStage.Proofs.Custom.Separation
import BlockStage.Proofs.Custom.Supplied
import BlockStage.Proofs.Data.ListPositions
import BlockStage.Proofs.Data.ListSearch
import BlockStage.Proofs.Looks.Costumes
import BlockStage.Proofs.Looks.TimedSpeech
import BlockStage.Proofs.Motion.Bouncing
import BlockStage.Proofs.Motion.Gliding
import BlockStage.Proofs.Operator.Calculations
import BlockStage.Proofs.Operator.Remainders
import BlockStage.Proofs.Operator.SeenIds
import BlockStage.Proofs.Operator.Spelling
import BlockStage.Proofs.Script.Acyclic
import BlockStage.Proofs.Script.Branches
import BlockStage.Proofs.Script.Endless
import BlockStage.Proofs.Sensing.Collisions
import BlockStage.Proofs.Sensing.StageEdge
import BlockStage.Proofs.Stage.ListMonitors
import BlockStage.Proofs.Stage.ListRows
import BlockStage.Proofs.Stage.Managed
import BlockStage.Proofs.Widget.Labels
import BlockStage.Proofs.Widget.Releasing
import BlockStage.Proofs.Widget.TextBoxes
import BlockStage.Proofs.Widget.Transposition
