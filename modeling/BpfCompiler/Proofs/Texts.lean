import BpfCompiler.Proofs.Contents
import BpfCompiler.Proofs.SlotUse

/-!
# The lengths of texts

A text that is printed and the text of the licence become arrays of bytes with a zero at their end.  The licence
has as many bytes as the type of its array says.  A printed text is measured in characters instead: the length in
the type and the size that the call passes are always the same number, but it is the number of bytes exactly if
all characters are from ASCII (`text_lengths`).
-/

namespace BpfCompiler

/-- Every code point is below 128. -/
def Text.isAscii (t : Text) : Bool := t.points.all fun p => p.val < 0x80

theorem CodePoint.length_utf8 {p : CodePoint} {bytes : List UInt8} (h : p.utf8? = some bytes) :
    1 ≤ bytes.length ∧ (1 = bytes.length ↔ p.val < 0x80) := by
  unfold CodePoint.utf8? at h
  split at h
  · cases h
  · obtain rfl := Option.some_inj.mp h
    split_ifs with hone
    · simp [hone]
    all_goals
      simp only [List.length_cons, List.length_nil]
      omega

namespace Text

theorem utf8?_append (a b : Text) :
    (a ++ b).utf8? = a.utf8?.bind fun x => b.utf8?.map fun y => x ++ y := by
  simp only [utf8?, points_append, List.mapM_append]
  cases a.points.mapM CodePoint.utf8? with
  | none => rfl
  | some xs =>
    cases b.points.mapM CodePoint.utf8? with
    | none => rfl
    | some ys => simp

/-- A text has at least one byte for each of its code points, and no more exactly if all are from ASCII. -/
theorem length_utf8 {t : Text} {data : List UInt8} (h : t.utf8? = some data) :
    t.length ≤ data.length ∧ (t.length = data.length ↔ t.isAscii = true) := by
  obtain ⟨points⟩ := t
  unfold utf8? length isAscii at *
  dsimp only at *
  induction points generalizing data with
  | nil =>
    obtain rfl : [] = data := by simpa using h
    simp
  | cons p rest ih =>
    obtain ⟨chunks, hchunks, rfl⟩ := Option.map_eq_some_iff.mp h
    rw [List.mapM_cons] at hchunks
    obtain ⟨bytes, hbytes, hrest⟩ := Option.bind_eq_some_iff.mp hchunks
    obtain ⟨others, hothers, hflat⟩ := Option.bind_eq_some_iff.mp hrest
    obtain rfl := Option.some_inj.mp hflat
    have hfirst := CodePoint.length_utf8 hbytes
    have hlater := ih (Option.map_eq_some_iff.mpr ⟨others, hothers, rfl⟩)
    rw [List.flatten_cons, List.length_append, List.length_cons, List.all_cons, Bool.and_eq_true,
      decide_eq_true_eq, ← hfirst.2, ← hlater.2]
    omega

/-- A printed text ends in a line feed and a zero. -/
theorem utf8?_ended {t : Text} {data : List UInt8} (h : (t ++ ("\n\x00" : Text)).utf8? = some data) :
    ∃ bytes, t.utf8? = some bytes ∧ data = bytes ++ [10, 0] := by
  have hend : ("\n\x00" : Text).utf8? = some [10, 0] := by decide
  rw [utf8?_append, hend] at h
  obtain ⟨bytes, hbytes, hdata⟩ := Option.bind_eq_some_iff.mp h
  exact ⟨bytes, hbytes, (Option.some_inj.mp hdata).symm⟩

end Text

namespace IR

/-- The length in the type of an array of bytes. -/
def Variable.declaredLength? (v : Variable) : Option Nat :=
  match v.ty with
  | .array n (.int 8) => some n
  | _ => none

/-- The bytes that a variable starts with. -/
def Variable.data? (v : Variable) : Option (List UInt8) :=
  match v.initializer with
  | some (.bytes data) | some (.byteList data) => some data
  | _ => none

/-- The address and the size of the text that a call prints. -/
def Op.printed? : Op → Option (Operand × Int)
  | .call _ _ _ _ _ (address :: .const (.int 32) (.int size) :: _) => some (address, size)
  | _ => none

end IR

end BpfCompiler

namespace BpfCompiler.Lower

open IR Syntax Emit

/-! ### Code between two prints -/

/-- The code has been appended, it has no calls, and the module has stayed the same. -/
structure Callless (f f' : Frame) (code : List Inst) : Prop extends Straight f f' code where
  calls : ∀ i ∈ code, i.op.isCall = false
  module : f'.workspace.module = f.workspace.module

theorem Callless.trans {f f₁ f₂ : Frame} {first second : List Inst} (h : Callless f f₁ first)
    (h' : Callless f₁ f₂ second) : Callless f f₂ (first ++ second) where
  toStraight := h.toStraight.trans h'.toStraight
  calls := by
    intro i hi
    rcases List.mem_append.mp hi with hi | hi
    · exact h.calls i hi
    · exact h'.calls i hi
  module := h'.module.trans h.module

/-- The relation that the computing of arguments preserves. -/
def Computing (f f' : Frame) : Prop := ∃ code, Callless f f' code

instance : Std.Refl Computing := ⟨fun f => ⟨[], Straight.refl f, by simp, rfl⟩⟩

instance : IsTrans Frame Computing :=
  ⟨fun _ _ _ ⟨_, hfirst⟩ ⟨_, hsecond⟩ => ⟨_, hfirst.trans hsecond⟩⟩

theorem say_callless {line : Text} {f f' : Frame} (h : exec (say line) f = (.ok (), f')) :
    Callless f f' [] := by
  obtain ⟨f₁, hexec, hstraight, -⟩ := say_straight line f
  have hmodule : (exec (say line) f).2.workspace.module = f.workspace.module := rfl
  rw [h] at hexec hmodule
  obtain ⟨-, rfl⟩ := Prod.mk.inj hexec
  exact ⟨hstraight, by simp, hmodule⟩

theorem say_computing (line : Text) : Preserves Computing (say line) := by
  intro f
  exact ⟨[], say_callless rfl⟩

theorem exec_append_workspace (op : Op) (f : Frame) :
    (exec (append op) f).2.workspace = f.workspace := rfl

theorem append_computing {op : Op} (hop : op.isTerminator = false) (hcall : op.isCall = false) :
    Preserves Computing (append op) := by
  intro f
  obtain ⟨name, f', hexec, hstraight⟩ := exec_append op hop f
  have hworkspace := exec_append_workspace op f
  rw [hexec] at hworkspace ⊢
  exact ⟨_, hstraight, by simpa using hcall, congrArg Workspace.module hworkspace⟩

theorem cast_computing (kind : Cast) (o : Operand) (target : Ty) :
    Preserves Computing (Emit.cast kind o target) := by
  unfold Emit.cast
  split
  · exact Preserves.pure _
  · exact Preserves.bind (append_computing rfl rfl) fun _ => Preserves.pure _

theorem readName_computing (id : String) : Preserves Computing (readName id) := by
  unfold readName
  refine Preserves.bind Preserves.get fun f => ?_
  split
  · refine Preserves.bind ?_ fun _ => Preserves.pure _
    unfold load
    split
    · exact append_computing rfl rfl
    · exact Preserves.throw _
  · exact Preserves.bind (say_computing _) fun _ => Preserves.pure _

theorem evalHole_computing (hole : Hole) : Preserves Computing (evalHole hole) := by
  unfold evalHole
  split
  · exact Preserves.bind (say_computing _) fun _ => readName_computing _
  · refine Preserves.bind ?_ fun _ => Preserves.bind (say_computing _) fun _ =>
      Preserves.bind (say_computing _) fun _ => Preserves.pure _
    unfold checkShown
    split
    · exact Preserves.throw _
    · exact Preserves.pure _

theorem holeArgument_computing (hole : Hole) : Preserves Computing (holeArgument hole) := by
  unfold holeArgument
  refine Preserves.bind (evalHole_computing hole) fun value => ?_
  split
  · split
    · exact cast_computing _ _ _
    · split
      · exact cast_computing _ _ _
      · exact Preserves.pure _
    · exact Preserves.bind (say_computing _) fun _ => Preserves.pure _
  · exact Preserves.bind (say_computing _) fun _ => Preserves.pure _

theorem mapM_holeArgument_computing (holes : List Hole) :
    Preserves Computing (holes.mapM holeArgument) := by
  induction holes with
  | nil => exact Preserves.pure _
  | cons hole rest ih =>
    rw [List.mapM_cons]
    exact Preserves.bind (holeArgument_computing hole) fun _ =>
      Preserves.bind ih fun _ => Preserves.pure _

/-! ### Prints -/

/-- A text that is printed: the characters before the line feed, the variable that holds it and the call. -/
structure Print where
  text : Text
  holder : Variable
  call : Inst

/-- The line feed and the zero behind every printed text. -/
def Print.full (p : Print) : Text := p.text ++ "\n\x00"

/-- The variable holds the bytes of the text, and the call passes its address; both are told the number of
characters. -/
structure Print.IsMade (p : Print) : Prop where
  data : p.holder.data? = p.full.utf8?
  encodes : p.full.utf8?.isSome = true
  declared : p.holder.declaredLength? = some p.full.length
  passed : p.call.op.printed? = some ((Global.variable p.holder).address, (p.full.length : Int))

/-- The code prints the texts, one after the other: each has a variable and a call. -/
structure Shows (f f' : Frame) (code : List Inst) (prints : List Print) : Prop
    extends Straight f f' code where
  calls : code.filter (fun i => i.op.isCall) = prints.map Print.call
  globals : f'.workspace.module.globals =
    f.workspace.module.globals ++ prints.map fun p => .variable p.holder
  made : ∀ p ∈ prints, p.IsMade

theorem Shows.nothing (f : Frame) : Shows f f [] [] :=
  ⟨Straight.refl f, rfl, by simp, by simp⟩

theorem Shows.trans {f f₁ f₂ : Frame} {code code' : List Inst} {first second : List Print}
    (h : Shows f f₁ code first) (h' : Shows f₁ f₂ code' second) :
    Shows f f₂ (code ++ code') (first ++ second) where
  toStraight := h.toStraight.trans h'.toStraight
  calls := by simp [h.calls, h'.calls]
  globals := by simp [h'.globals, h.globals]
  made := by
    intro p hp
    rcases List.mem_append.mp hp with hp | hp
    · exact h.made p hp
    · exact h'.made p hp

/-- The call of the helper that prints, through a pointer to it. -/
def printkCall (pointer : String) (args : List Operand) : Op :=
  .call true Ty.i64 [Ty.bytePtr, Ty.i32] true (.local pointer (.ptr Signature.printk.ty)) args

/-- The code of a call of the helper that prints. -/
def printkCode (pointer name : String) (args : List Operand) : List Inst :=
  [⟨pointer, .cast .intToPtr (Operand.int Ty.i64 Signature.printk.number) (.ptr Signature.printk.ty)⟩,
    ⟨name, printkCall pointer args⟩]

theorem exec_printk (v : Variable) (size : Nat) (values : List Operand) (f : Frame) :
    ∃ pointer name f', exec (callKernel .printk
        ((Global.variable v).address :: Operand.int Ty.i32 size :: values)) f =
          (.ok (.local name Ty.i64), f') ∧
      Straight f f' (printkCode pointer name
        ((Global.variable v).address :: Operand.int Ty.i32 size :: values)) ∧
      f'.workspace = f.workspace := by
  have haccepts : Signature.printk.accepts
      ((Global.variable v).address :: Operand.int Ty.i32 size :: values) = true := by
    simp [Signature.accepts, Signature.printk, Operand.ty, Operand.int, Global.address, Global.ty,
      Ty.agrees]
  exact exec_callKernel_of_accepts haccepts f

/-- A text gets its variable first.  The call comes behind the code that computes its other arguments. -/
theorem shows_of_call {text : Text} {global : Operand × Nat} {f f₁ f₂ f' : Frame} {o : Operand}
    {code : List Inst} {values : List Operand}
    (hglobal : exec (formatGlobal text) f = (.ok global, f₁)) (hquiet : Callless f₁ f₂ code)
    (hcall : exec (callKernel .printk (global.1 :: Operand.int Ty.i32 global.2 :: values)) f₂ =
      (.ok o, f')) :
    ∃ (p : Print) (pointer name : String), p.text = text ∧
      let args := (Global.variable p.holder).address :: Operand.int Ty.i32 p.full.length :: values
      p.call = ⟨name, printkCall pointer args⟩ ∧
        Straight f₂ f' (printkCode pointer name args) ∧
        Shows f f' (code ++ printkCode pointer name args) [p] := by
  obtain ⟨scope, data, hdata, -, rfl, rfl⟩ := formatGlobal_inv hglobal
  obtain ⟨pointer, name, f₃, hexec, hstraight, hworkspace⟩ := exec_printk _ _ values f₂
  rw [hexec] at hcall
  obtain ⟨-, rfl⟩ := Prod.mk.inj hcall
  let v := textVariable (formatName f.fn.name f.fn.formats) (text ++ ("\n\x00" : Text)) (some data)
  let args := (Global.variable v).address ::
    Operand.int Ty.i32 (text ++ ("\n\x00" : Text)).length :: values
  have hall := ((f.withText_straight scope _).trans hquiet.toStraight).trans hstraight
  refine ⟨⟨text, v, ⟨name, printkCall pointer args⟩⟩, pointer, name, rfl, rfl, hstraight,
    hall, ?_, ?_, ?_⟩
  · rw [List.filter_append, List.filter_eq_nil_iff.mpr (by simpa using hquiet.calls)]
    rfl
  · rw [hworkspace, hquiet.module]
    rfl
  · intro p hp
    obtain rfl := List.mem_singleton.mp hp
    exact ⟨hdata.symm, by rw [Print.full, hdata]; rfl, rfl, rfl⟩

/-- The texts that the arguments of a print make it print. -/
def printedTexts : List Expr → List Text
  | .joined parts :: _ => (formatParts parts).toOption.toList.map Prod.fst
  | args => args.filterMap Expr.textLiteral?

/-- A text with holes: its variable, the code of at most three arguments, and the call. -/
theorem printParts_inv {parts : List Expr} {o : Operand} {f f' : Frame}
    (h : exec (printParts parts) f = (.ok o, f')) :
    ∃ format holes global f₁ f₂ f₃ values, formatParts parts = .ok (format, holes) ∧
      exec (formatGlobal format) f = (.ok global, f₁) ∧ Callless f₁ f₂ [] ∧
      exec ((holes.take 3).mapM holeArgument) f₂ = (.ok values, f₃) ∧
      exec (callKernel .printk (global.1 :: Operand.int Ty.i32 global.2 :: values)) f₃ =
        (.ok o, f') := by
  unfold printParts at h
  obtain ⟨⟨format, holes⟩, f₀, hparts, hrest⟩ := exec_bind_inv h
  obtain ⟨hformat, rfl⟩ := exec_lift_inv hparts
  obtain ⟨global, f₁, hglobal, hrest⟩ := exec_bind_inv hrest
  dsimp only at hrest
  split at hrest
  · obtain ⟨⟨⟩, f₂, hsay, hrest⟩ := exec_bind_inv hrest
    obtain ⟨values, f₃, hvalues, hcall⟩ := exec_bind_inv hrest
    exact ⟨format, holes, global, f₁, f₂, f₃, values, hformat, hglobal, say_callless hsay, hvalues,
      hcall⟩
  · obtain ⟨values, f₃, hvalues, hcall⟩ := exec_bind_inv hrest
    exact ⟨format, holes, global, f₁, f₁, f₃, values, hformat, hglobal,
      ⟨Straight.refl _, by simp, rfl⟩, hvalues, hcall⟩

theorem printParts_shows {parts : List Expr} {o : Operand} {f f' : Frame}
    (h : exec (printParts parts) f = (.ok o, f')) :
    ∃ format holes, formatParts parts = .ok (format, holes) ∧
      ∃ (p : Print) (code : List Inst), p.text = format ∧ Shows f f' code [p] := by
  obtain ⟨format, holes, global, f₁, f₂, f₃, values, hformat, hglobal, hquiet, hvalues, hcall⟩ :=
    printParts_inv h
  obtain ⟨code, hcomputing⟩ := (mapM_holeArgument_computing _).of_exec hvalues
  obtain ⟨p, pointer, name, htext, -, -, hshows⟩ :=
    shows_of_call hglobal (hquiet.trans hcomputing) hcall
  exact ⟨format, holes, hformat, p, _, htext, hshows⟩

theorem printText_shows {text : Text} {f f' : Frame} (h : exec (printText text) f = (.ok (), f')) :
    ∃ (p : Print) (code : List Inst), p.text = text ∧ Shows f f' code [p] := by
  unfold printText at h
  obtain ⟨global, f₁, hglobal, hrest⟩ := exec_bind_inv h
  obtain ⟨o, f₂, hcall, hend⟩ := exec_bind_inv hrest
  obtain ⟨-, rfl⟩ := exec_pure_inv hend
  obtain ⟨p, pointer, name, htext, -, -, hshows⟩ :=
    shows_of_call hglobal ⟨Straight.refl _, by simp, rfl⟩ hcall
  exact ⟨p, _, htext, hshows⟩

theorem forM_printText_shows {texts : List Text} {f f' : Frame}
    (h : exec (texts.forM printText) f = (.ok (), f')) :
    ∃ prints code, prints.map Print.text = texts ∧ Shows f f' code prints := by
  induction texts generalizing f with
  | nil =>
    obtain ⟨-, rfl⟩ := exec_pure_inv h
    exact ⟨[], [], rfl, .nothing f'⟩
  | cons text rest ih =>
    obtain ⟨⟨⟩, f₁, hfirst, hrest⟩ := exec_bind_inv h
    obtain ⟨p, code, hp, hshows⟩ := printText_shows hfirst
    obtain ⟨prints, code', hprints, hshows'⟩ := ih hrest
    exact ⟨p :: prints, _, by simp [hp, hprints], hshows.trans hshows'⟩

theorem printCall_shows {args : List Expr} {result : Option Operand} {f f' : Frame}
    (h : exec (printCall args) f = (.ok result, f')) :
    ∃ prints code, prints.map Print.text = printedTexts args ∧ Shows f f' code prints := by
  unfold printCall at h
  split at h
  · exact exec_throw_inv h
  · obtain ⟨o, f₁, hparts, hend⟩ := exec_bind_inv h
    obtain ⟨-, rfl⟩ := exec_pure_inv hend
    obtain ⟨format, holes, hformat, p, code, hp, hshows⟩ := printParts_shows hparts
    exact ⟨[p], code, by simp [printedTexts, hformat, hp, Except.toOption], hshows⟩
  · rename_i args hnotEmpty hnotJoined
    obtain ⟨⟨⟩, f₁, htexts, hend⟩ := exec_bind_inv h
    obtain ⟨-, rfl⟩ := exec_pure_inv hend
    obtain ⟨prints, code, hprints, hshows⟩ := forM_printText_shows htexts
    refine ⟨prints, code, ?_, hshows⟩
    rw [hprints, printedTexts]
    exact hnotJoined

/-! ### Lengths -/

/-- The length in the type of the variable and the size that the call passes are the number of bytes. -/
def Print.LengthsAgree (p : Print) : Prop :=
  ∃ data, p.holder.data? = some data ∧ p.holder.declaredLength? = some data.length ∧
    p.call.op.printed? = some ((Global.variable p.holder).address, (data.length : Int))

/-- The last of the bytes is a zero. -/
def EndsInZero (v : Variable) : Prop := ∃ data, v.data? = some data ∧ data.getLast? = some 0

namespace Print.IsMade

variable {p : Print}

theorem endsInZero (h : p.IsMade) : EndsInZero p.holder := by
  obtain ⟨data, hdata⟩ := Option.isSome_iff_exists.mp h.encodes
  obtain ⟨bytes, -, rfl⟩ := Text.utf8?_ended hdata
  exact ⟨_, h.data.trans hdata, by simp⟩

theorem lengthsAgree_iff (h : p.IsMade) : p.LengthsAgree ↔ p.text.isAscii = true := by
  obtain ⟨data, hdata⟩ := Option.isSome_iff_exists.mp h.encodes
  obtain ⟨bytes, hbytes, hended⟩ := Text.utf8?_ended hdata
  have hchars : p.full.length = p.text.length + 2 := by
    rw [Print.full, Text.length_append]
    rfl
  have hcount : data.length = bytes.length + 2 := by simp [hended]
  rw [← (Text.length_utf8 hbytes).2]
  constructor
  · rintro ⟨data', hdata', hdeclared, -⟩
    obtain rfl : data' = data := Option.some_inj.mp (hdata'.symm.trans (h.data.trans hdata))
    have hlength := Option.some_inj.mp (h.declared.symm.trans hdeclared)
    omega
  · intro hlength
    have hfull : p.full.length = data.length := by omega
    exact ⟨data, h.data.trans hdata, hfull ▸ h.declared, hfull ▸ h.passed⟩

end Print.IsMade

/-- Printed texts and the licence end in a zero.  The lengths that are given for a printed text are right exactly
if it is in ASCII, and the length of the licence always is. -/
theorem text_lengths (args : List Expr) (m : Syntax.Module) :
    (∀ (result : Option Operand) (f f' : Frame), exec (printCall args) f = (.ok result, f') →
        ∃ prints code, prints.map Print.text = printedTexts args ∧ Shows f f' code prints ∧
          ∀ p ∈ prints, EndsInZero p.holder ∧ (p.LengthsAgree ↔ p.text.isAscii = true)) ∧
    ∀ (text : Text) (licensed : Bool) (w w' : Workspace),
      (License.definition? m).bind License.returnedText? = some text →
      exec (License.add m) w = (.ok licensed, w') →
        ∃ v data, w'.module.globals = w.module.globals ++ [.variable v] ∧ v.name = "LICENSE" ∧
          text.utf8? = some data ∧ v.data? = some (data ++ [0]) ∧ EndsInZero v ∧
          v.declaredLength? = some (data ++ [0]).length := by
  constructor
  · intro result f f' h
    obtain ⟨prints, code, htexts, hshows⟩ := printCall_shows h
    refine ⟨prints, code, htexts, hshows, fun p hp => ?_⟩
    exact ⟨(hshows.made p hp).endsInZero, (hshows.made p hp).lengthsAgree_iff⟩
  · intro text licensed w w' htext h
    obtain ⟨hsome, hgains⟩ := license_gains h
    rw [htext] at hsome
    obtain ⟨v, hv⟩ := Option.isSome_iff_exists.mp hsome
    have hglobals := hgains.globals
    rw [hv] at hglobals
    rw [licenseOf, htext, Option.bind_some] at hv
    obtain ⟨data, hdata, rfl⟩ := Option.map_eq_some_iff.mp hv
    exact ⟨_, data, hglobals, rfl, hdata, rfl, ⟨_, rfl, by simp⟩, rfl⟩

/-- The variable that was added to the module last. -/
def lastVariable? (f : Frame) : Option Variable :=
  match f.workspace.module.globals.getLast? with
  | some (.variable v) => some v
  | _ => none

/-- `print("é")` in a program without variables. -/
def accentPrinted : Frame := (exec (printCall [.const (.text "é") false]) (bareFrame Table.empty)).2

/-- The letter has two bytes, so that the array has one more than its type and the call say. -/
theorem accentPrinted_lengths_differ :
    ("é" : Text).utf8? = some [0xC3, 0xA9] ∧
      (lastVariable? accentPrinted).bind Variable.data? = some [0xC3, 0xA9, 10, 0] ∧
      (lastVariable? accentPrinted).bind Variable.declaredLength? = some 3 ∧
      accentPrinted.block.insts.filterMap (fun i => i.op.printed?.map Prod.snd) = [3] := by
  decide +kernel

/-- A licence of two words with an accent. -/
def accentLicense : Syntax.Module :=
  ⟨[.function ⟨false, "LICENSE", [], [.ret (some (.const (.text "Licence à") false))],
    [.name "bpf", .name "bpfglobal"], none⟩]⟩

/-- Of the texts `é` and `ok` the second has the right lengths and the first has not, and a licence with an
accent has. -/
theorem accent_text_lengths :
    (∃ result f' p q code, exec (printCall [.const (.text "é") false, .const (.text "ok") false])
        (bareFrame Table.empty) = (.ok result, f') ∧ p.text = ("é" : Text) ∧ q.text = ("ok" : Text) ∧
      Shows (bareFrame Table.empty) f' code [p, q] ∧ EndsInZero p.holder ∧ ¬p.LengthsAgree ∧
      EndsInZero q.holder ∧ q.LengthsAgree) ∧
    ∃ licensed w' v data, exec (License.add accentLicense) (Compile.start "p.py" Table.empty) =
        (.ok licensed, w') ∧ v.data? = some (data ++ [0]) ∧ EndsInZero v ∧
      v.declaredLength? = some (data ++ [0]).length ∧ ("Licence à" : Text).utf8? = some data := by
  constructor
  · have hrun : (exec (printCall [.const (.text "é") false, .const (.text "ok") false])
        (bareFrame Table.empty)).1.isOk = true := by
      decide +kernel
    obtain ⟨result, f', hexec⟩ := exec_of_isOk hrun
    obtain ⟨prints, code, htexts, hshows, hlengths⟩ := (text_lengths _ accentLicense).1 _ _ _ hexec
    have htexts' : prints.map Print.text = ["é", "ok"] := htexts
    obtain ⟨p, rest, rfl, hp, hrest⟩ := List.map_eq_cons_iff.mp htexts'
    obtain ⟨q, nothing, rfl, hq, hnothing⟩ := List.map_eq_cons_iff.mp hrest
    obtain rfl := List.map_eq_nil_iff.mp hnothing
    obtain ⟨hpZero, hpLengths⟩ := hlengths p (by simp)
    obtain ⟨hqZero, hqLengths⟩ := hlengths q (by simp)
    rw [hp] at hpLengths
    rw [hq] at hqLengths
    have hnot : ¬("é" : Text).isAscii = true := by decide +kernel
    have hascii : ("ok" : Text).isAscii = true := by decide +kernel
    exact ⟨result, f', p, q, code, hexec, hp, hq, hshows, hpZero, hpLengths.not.mpr hnot, hqZero,
      hqLengths.mpr hascii⟩
  · have hrun : (exec (License.add accentLicense) (Compile.start "p.py" Table.empty)).1.isOk = true := by
      decide +kernel
    obtain ⟨licensed, w', hexec⟩ := exec_of_isOk hrun
    have htext : (License.definition? accentLicense).bind License.returnedText? =
        some ("Licence à" : Text) := by
      decide +kernel
    obtain ⟨v, data, -, -, hdata, hbytes, hzero, hlength⟩ :=
      (text_lengths [] accentLicense).2 _ _ _ _ htext hexec
    exact ⟨licensed, w', v, data, hexec, hbytes, hzero, hlength, hdata⟩

end BpfCompiler.Lower
