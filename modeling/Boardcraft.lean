import Boardcraft.Main
import Boardcraft.Proofs.Game.ActionTargets
import Boardcraft.Proofs.Game.Addressing
import Boardcraft.Proofs.Game.Agreement
import Boardcraft.Proofs.Shape.Meaning
import Boardcraft.Proofs.Mirror.Board
import Boardcraft.Proofs.Mirror.Game
import Boardcraft.Proofs.Mirror.Changes
import Boardcraft.Proofs.Mirror.Play
import Boardcraft.Proofs.Mirror.Commands
import Boardcraft.Proofs.Mirror.Run
import Boardcraft.Proofs.Game.Losses
import Boardcraft.Proofs.Status.Tracking
import Boardcraft.Proofs.Ability.Precedence
import Boardcraft.Proofs.Game.Immobility
import Boardcraft.Proofs.Game.Turn
import Boardcraft.Proofs.Game.Victory
import Boardcraft.Proofs.Game.Quiet
import Boardcraft.Proofs.Game.Alternation
import Boardcraft.Proofs.Game.Announcement
import Boardcraft.Proofs.Shape.Grammar
import Boardcraft.Proofs.Session.Loop
import Boardcraft.Proofs.Twin.Placement
import Boardcraft.Proofs.Shape.Symmetry
import Boardcraft.Proofs.Game.Sliding
import Boardcraft.Proofs.Game.Aftermath
import Boardcraft.Proofs.Game.Channel
import Boardcraft.Proofs.Shape.Algebra
import Boardcraft.Proofs.Shape.Size
import Boardcraft.Proofs.Shape.FirstFlaw
import Boardcraft.Proofs.Status.InForce
import Boardcraft.Proofs.Board.Requests
import Boardcraft.Proofs.Game.Failures
import Boardcraft.Proofs.Settings.Loading
import Boardcraft.Proofs.Grid.Walk
import Boardcraft.Proofs.Drawing
import Boardcraft.Proofs.Game.Lineup
import Boardcraft.Proofs.Blueprint.Records
