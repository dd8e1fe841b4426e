import RecursiveMatrix.CaseCount
import RecursiveMatrix.Main
import RecursiveMatrix.Preset
import RecursiveMatrix.Proofs.OutputContract
import RecursiveMatrix.Proofs.Schedule
import RecursiveMatrix.Random.Script
import RecursiveMatrix.Trace.Recorder
import RecursiveMatrix.Proofs.Phases
import RecursiveMatrix.Proofs.Account
import RecursiveMatrix.Proofs.Tally
import RecursiveMatrix.Proofs.Recording
import RecursiveMatrix.Proofs.Transcript
import RecursiveMatrix.Proofs.Binary32.Rounding
import RecursiveMatrix.Proofs.Binary32.Value
import RecursiveMatrix.Proofs.Binary32.Operations
import RecursiveMatrix.Proofs.Binary32.Error
import RecursiveMatrix.Proofs.Binary32.Scientific
import RecursiveMatrix.Proofs.Jitter
import RecursiveMatrix.Proofs.Shares
import RecursiveMatrix.Proofs.Levels
import RecursiveMatrix.Proofs.Demands
import RecursiveMatrix.Proofs.EvenSplit
import RecursiveMatrix.Proofs.Gathering
import RecursiveMatrix.Proofs.Execution
import RecursiveMatrix.Proofs.Addresses
import RecursiveMatrix.Proofs.SeedMixing
import RecursiveMatrix.Proofs.BlockCount
import RecursiveMatrix.Proofs.FirstTry
import RecursiveMatrix.Proofs.Binary32.Grid
import RecursiveMatrix.Proofs.Binary32.Complement
import RecursiveMatrix.Proofs.Constants
import RecursiveMatrix.Proofs.Draws
import RecursiveMatrix.Proofs.Selection
import RecursiveMatrix.Proofs.Frequencies
import RecursiveMatrix.Proofs.Histories
import RecursiveMatrix.Proofs.WiderRange
import RecursiveMatrix.Proofs.WorkBound
import RecursiveMatrix.Proofs.Settings
import RecursiveMatrix.Proofs.DrawBudget
import RecursiveMatrix.Proofs.WordRange
import RecursiveMatrix.Proofs.Numerals
import RecursiveMatrix.Proofs.SingleNumerals
import RecursiveMatrix.Proofs.EdgeList
import RecursiveMatrix.Proofs.LogSetup
import RecursiveMatrix.Proofs.Arguments
import RecursiveMatrix.Proofs.CommandAgreement
import RecursiveMatrix.Proofs.BitLength
import RecursiveMatrix.Proofs.JitterInterval
import RecursiveMatrix.Proofs.CaseOverride
import RecursiveMatrix.Proofs.SpanLives
