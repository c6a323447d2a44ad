import BpfCompiler.Compile
import BpfCompiler.Dwarf
import BpfCompiler.FrontEnd
import BpfCompiler.Host.Cell
import BpfCompiler.Host.HashMap
import BpfCompiler.Host.Trace
import BpfCompiler.Main
import BpfCompiler.Workload.Measure
import BpfCompiler.Proofs.Emission
import BpfCompiler.Proofs.Composition
import BpfCompiler.Proofs.StraightLine
import BpfCompiler.Proofs.Lowering
import BpfCompiler.Proofs.BodySteps
import BpfCompiler.Proofs.Programs
import BpfCompiler.Proofs.ControlFlow
import BpfCompiler.Proofs.ModuleSteps
import BpfCompiler.Proofs.Compilation
import BpfCompiler.Proofs.Ownership
import BpfCompiler.Proofs.Returns
import BpfCompiler.Proofs.Coverage
import BpfCompiler.Proofs.BlockEnds
import BpfCompiler.Proofs.Isolation
import BpfCompiler.Proofs.MapTable
import BpfCompiler.Proofs.Operands
import BpfCompiler.Proofs.Emitters
import BpfCompiler.Proofs.Slots
import BpfCompiler.Proofs.Dominance
import BpfCompiler.Proofs.OperandTypes
import BpfCompiler.Proofs.Inventory
import BpfCompiler.Proofs.ClosedModule
import BpfCompiler.Proofs.Contents
import BpfCompiler.Proofs.Nodes
import BpfCompiler.Proofs.MapGraph
import BpfCompiler.Proofs.MapTypes
import BpfCompiler.Proofs.MapLayout
import BpfCompiler.Proofs.Conditions
import BpfCompiler.Proofs.SlotUse
import BpfCompiler.Proofs.SlotSharing
import BpfCompiler.Proofs.Independence
import BpfCompiler.Proofs.Machine
import BpfCompiler.Proofs.Words
import BpfCompiler.Proofs.WordCode
import BpfCompiler.Proofs.WordLowering
import BpfCompiler.Proofs.WordSimulation
import BpfCompiler.Proofs.WordPrograms
import BpfCompiler.Proofs.SignedWords
import BpfCompiler.Proofs.Registers
import BpfCompiler.Proofs.IntegerArithmetic
import BpfCompiler.Proofs.Texts
import BpfCompiler.Proofs.Printing
import BpfCompiler.Proofs.Comparisons
import BpfCompiler.Proofs.DeclaredTypes
import BpfCompiler.Proofs.ReturnDepth
import BpfCompiler.Proofs.PointerReads
import BpfCompiler.Proofs.MapKeys
import BpfCompiler.Proofs.ConstantRange
import BpfCompiler.Proofs.ConstantEmitters
import BpfCompiler.Proofs.WrittenConstants
import BpfCompiler.Proofs.Untouched
import BpfCompiler.Proofs.ArgumentStyles
import BpfCompiler.Proofs.MapRuns
import BpfCompiler.Proofs.Marks
import BpfCompiler.Proofs.ObjectNames
import BpfCompiler.Proofs.UserMaps
import BpfCompiler.Proofs.ReturnInference
import BpfCompiler.Proofs.TextNames
import BpfCompiler.Proofs.Dereferencing
