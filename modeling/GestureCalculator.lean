import GestureCalculator.Main
import GestureCalculator.Proofs.AtomicSaves
import GestureCalculator.Proofs.ContinuedResults
import GestureCalculator.Proofs.DescentProgress
import GestureCalculator.Proofs.HitTesting
import GestureCalculator.Proofs.KeypadBounds
import GestureCalculator.Proofs.PressRhythm
import GestureCalculator.Proofs.RebuiltKeypads
import GestureCalculator.Proofs.Replays
import GestureCalculator.Proofs.RespacedTexts
import GestureCalculator.Proofs.StringLiterals
import GestureCalculator.Proofs.TreeSizes
import GestureCalculator.Proofs.ViablePrefixes
