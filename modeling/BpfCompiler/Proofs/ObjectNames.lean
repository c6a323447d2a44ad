import BpfCompiler.FrontEnd
import Mathlib.Data.List.TakeWhile

/-!
# The names of object files

Both front ends name the object file after the source: they take off an ending and add their own.  They take
the last dot for the start of the ending, but each passes over some dots.  A program that compiles itself keeps
a dot at the start or at the end of the name; the tool keeps a dot that has only dots before it.  So the two
names differ exactly if one of them drops what the other one keeps.
-/

namespace BpfCompiler.Output

/-! ### The last separator -/

theorem takeWhile_ne_of_not_mem {c : Char} {text : List Char} (h : c ∉ text) :
    text.reverse.takeWhile (· ≠ c) = text.reverse := by
  rw [List.takeWhile_eq_self_iff]
  intro d hd
  have hmem : d ∈ text := List.mem_reverse.mp hd
  simpa using ne_of_mem_of_not_mem hmem h

theorem takeWhile_ne_append {c : Char} {tail : List Char} (h : c ∉ tail) (head : List Char) :
    (head ++ c :: tail).reverse.takeWhile (· ≠ c) = tail.reverse := by
  have hreverse : (head ++ c :: tail).reverse = tail.reverse ++ c :: head.reverse := by simp
  rw [hreverse, List.takeWhile_append, takeWhile_ne_of_not_mem h]
  simp

theorem splitLastDot_of_not_mem {base : List Char} (h : '.' ∉ base) : splitLastDot base = none := by
  simp only [splitLastDot]
  rw [takeWhile_ne_of_not_mem h]
  simp

theorem splitLastDot_append {tail : List Char} (h : '.' ∉ tail) (head : List Char) :
    splitLastDot (head ++ '.' :: tail) = some (head, tail) := by
  have hlength : (head ++ '.' :: tail).length - tail.length = (head ++ ['.']).length := by
    simp only [List.length_append, List.length_cons, List.length_nil]
    omega
  have hhead : (head ++ '.' :: tail).take (head ++ ['.']).length = head ++ ['.'] := by
    rw [show head ++ '.' :: tail = (head ++ ['.']) ++ tail by simp, List.take_left]
  simp only [splitLastDot]
  rw [takeWhile_ne_append h, List.reverse_reverse, hlength, hhead]
  simp

theorem exists_lastDot {base : List Char} (h : '.' ∈ base) :
    ∃ head tail, base = head ++ '.' :: tail ∧ '.' ∉ tail := by
  induction base with
  | nil => simp at h
  | cons c rest ih =>
    by_cases hrest : '.' ∈ rest
    · obtain ⟨head, tail, rfl, htail⟩ := ih hrest
      exact ⟨c :: head, tail, rfl, htail⟩
    · obtain rfl : '.' = c := by simpa [hrest] using h
      exact ⟨[], rest, rfl, hrest⟩

/-! ### Directories and base names -/

/-- A directory is empty or ends in a slash. -/
def IsDirectory (directory : String) : Prop :=
  directory = "" ∨ ∃ front, directory = front ++ "/"

theorem IsDirectory.append {front : String} (hfront : IsDirectory front) {directory : String}
    (h : IsDirectory directory) : IsDirectory (front ++ directory) := by
  rcases h with rfl | ⟨rest, rfl⟩
  · simpa using hfront
  · exact .inr ⟨front ++ rest, by rw [String.append_assoc]⟩

def baseName (path : String) : String := String.ofList (splitPath path).2

theorem splitPath_append {directory base : String} (hdirectory : IsDirectory directory)
    (hbase : '/' ∉ base.toList) : splitPath (directory ++ base) = (directory.toList, base.toList) := by
  have hlast : ((directory ++ base).toList.reverse.takeWhile (· ≠ '/')).reverse = base.toList := by
    rcases hdirectory with rfl | ⟨front, rfl⟩
    · rw [String.empty_append, takeWhile_ne_of_not_mem hbase, List.reverse_reverse]
    · have hchars : (front ++ "/" ++ base).toList = front.toList ++ '/' :: base.toList := by simp
      rw [hchars, takeWhile_ne_append hbase, List.reverse_reverse]
  simp only [splitPath]
  rw [hlast]
  simp

theorem baseName_append {directory base : String} (hdirectory : IsDirectory directory)
    (hbase : '/' ∉ base.toList) : baseName (directory ++ base) = base := by
  rw [baseName, splitPath_append hdirectory hbase, String.ofList_toList]

/-! ### Resolved paths -/

theorem parts_append {directory base : String} (hdirectory : IsDirectory directory)
    (hbase : '/' ∉ base.toList) : ∃ front, Files.parts (directory ++ base) = front ++ [base] := by
  rcases hdirectory with rfl | ⟨front, rfl⟩
  · exact ⟨[], by simp [Files.parts, List.splitOn_eq_singleton hbase]⟩
  · have hchars : (front ++ "/" ++ base).toList = front.toList ++ '/' :: base.toList := by simp
    refine ⟨Files.parts front, ?_⟩
    rw [Files.parts, hchars, List.splitOn_append_cons_self, List.splitOn_eq_singleton hbase]
    simp [Files.parts]

theorem intercalate_concat (front : List String) (base : String) :
    ∃ directory, IsDirectory directory ∧ "/".intercalate (front ++ [base]) = directory ++ base := by
  by_cases hfront : front = []
  · exact ⟨"", .inl rfl, by simp [hfront]⟩
  · refine ⟨"/".intercalate front ++ "/", .inr ⟨_, rfl⟩, ?_⟩
    rw [String.intercalate_append_of_ne_nil hfront (by simp), String.intercalate_singleton]

/-- Resolving a path may change its directory, but a name stays. -/
theorem resolve_append {directory base : String} (hdirectory : IsDirectory directory)
    (hbase : '/' ∉ base.toList) (hempty : base ≠ "") (hdot : base ≠ ".") (hdots : base ≠ "..") :
    ∃ resolved, IsDirectory resolved ∧ Files.resolve (directory ++ base) = resolved ++ base := by
  obtain ⟨front, hparts⟩ := parts_append hdirectory hbase
  have hroot : IsDirectory (if Files.isAbsolute (directory ++ base) then "/" else "") := by
    split
    · exact .inr ⟨"", rfl⟩
    · exact .inl rfl
  simp only [Files.resolve]
  rw [hparts, List.foldl_append, List.foldl_cons, List.foldl_nil]
  simp only [hempty, hdot, hdots, decide_false, Bool.or_self, Bool.false_eq_true, if_false,
    List.reverse_cons]
  obtain ⟨kept, hkept, hjoined⟩ := intercalate_concat _ base
  exact ⟨_, hroot.append hkept, by rw [hjoined, String.append_assoc]⟩

/-! ### Stems -/

theorem selfStem_append {tail : List Char} (h : '.' ∉ tail) (head : List Char) :
    selfStem (head ++ '.' :: tail) = if head = [] ∨ tail = [] then head ++ '.' :: tail else head := by
  rw [selfStem, splitLastDot_append h]
  simp

theorem toolStem_append {tail : List Char} (h : '.' ∉ tail) (head : List Char) :
    toolStem (head ++ '.' :: tail) = if head.all (· == '.') then head ++ '.' :: tail else head := by
  rw [toolStem, splitLastDot_append h]

theorem stems_subset (base : List Char) : selfStem base ⊆ base ∧ toolStem base ⊆ base := by
  by_cases hdot : '.' ∈ base
  · obtain ⟨head, tail, rfl, htail⟩ := exists_lastDot hdot
    rw [selfStem_append htail, toolStem_append htail]
    constructor <;> split <;> simp
  · simp [selfStem, toolStem, splitLastDot_of_not_mem hdot]

/-- The place of the last dot of a name. -/
def IsLastDot (name : List Char) (i : Nat) : Prop :=
  name[i]? = some '.' ∧ ∀ j, i < j → name[j]? ≠ some '.'

theorem isLastDot_append_iff {tail : List Char} (h : '.' ∉ tail) (head : List Char) (i : Nat) :
    IsLastDot (head ++ '.' :: tail) i ↔ i = head.length := by
  have hat : (head ++ '.' :: tail)[head.length]? = some '.' := by simp
  have hbehind : ∀ j, head.length < j → (head ++ '.' :: tail)[j]? ≠ some '.' := by
    intro j hj hdot
    rw [List.getElem?_append_right hj.le] at hdot
    obtain ⟨k, hk⟩ : ∃ k, j - head.length = k + 1 := ⟨j - head.length - 1, by omega⟩
    rw [hk, List.getElem?_cons_succ] at hdot
    exact h (List.mem_of_getElem? hdot)
  constructor
  · rintro ⟨hdot, hlast⟩
    rcases lt_trichotomy i head.length with hlt | heq | hgt
    · exact absurd hat (hlast _ hlt)
    · exact heq
    · exact absurd hdot (hbehind i hgt)
  · rintro rfl
    exact ⟨hat, hbehind⟩

/-- The name ends in a dot, and before it stands some other character. -/
def EndsInDot (name : List Char) : Prop := ∃ front, name = front ++ ['.'] ∧ ∃ c ∈ front, c ≠ '.'

/-- The last dot is neither the first nor the last character, and only dots stand before it. -/
def StartsInDots (name : List Char) : Prop :=
  ∃ i, IsLastDot name i ∧ 0 < i ∧ i < name.length - 1 ∧ ∀ c ∈ name.take i, c = '.'

theorem endsInDot_append_iff {tail : List Char} (h : '.' ∉ tail) (head : List Char) :
    EndsInDot (head ++ '.' :: tail) ↔ tail = [] ∧ ∃ c ∈ head, c ≠ '.' := by
  constructor
  · rintro ⟨front, hname, hother⟩
    rcases List.eq_nil_or_concat tail with rfl | ⟨rest, last, rfl⟩
    · obtain rfl : head = front := by simpa using hname
      exact ⟨rfl, hother⟩
    · -- the last character would be a dot behind the last dot
      have hends : (head ++ '.' :: rest) ++ [last] = front ++ ['.'] := by simpa using hname
      obtain rfl : last = '.' := by simpa using (List.append_inj' hends rfl).2
      simp at h
  · rintro ⟨rfl, hother⟩
    exact ⟨head, rfl, hother⟩

theorem startsInDots_append_iff {tail : List Char} (h : '.' ∉ tail) (head : List Char) :
    StartsInDots (head ++ '.' :: tail) ↔ head ≠ [] ∧ tail ≠ [] ∧ ∀ c ∈ head, c = '.' := by
  simp only [StartsInDots, isLastDot_append_iff h, exists_eq_left, List.take_left]
  have hbehind : head.length < (head ++ '.' :: tail).length - 1 ↔ tail ≠ [] := by
    rw [← List.length_pos_iff]
    simp
  rw [hbehind, List.length_pos_iff]

theorem selfStem_eq_toolStem_iff (base : List Char) :
    selfStem base = toolStem base ↔ ¬EndsInDot base ∧ ¬StartsInDots base := by
  by_cases hdot : '.' ∈ base
  · obtain ⟨head, tail, rfl, htail⟩ := exists_lastDot hdot
    rw [selfStem_append htail, toolStem_append htail, endsInDot_append_iff htail,
      startsInDots_append_iff htail]
    by_cases hstart : head = []
    · simp [hstart]
    · by_cases hend : tail = []
      · -- only the tool can drop a dot at the end
        by_cases hdots : ∀ c ∈ head, c = '.' <;> simp [hstart, hend, hdots]
      · -- only the tool can keep a dot in the middle
        by_cases hdots : ∀ c ∈ head, c = '.' <;> simp [hstart, hend, hdots]
  · have hends : ¬EndsInDot base := by
      rintro ⟨front, rfl, -⟩
      simp at hdot
    have hstarts : ¬StartsInDots base := by
      rintro ⟨i, ⟨hi, -⟩, -⟩
      exact hdot (List.mem_of_getElem? hi)
    simp [selfStem, toolStem, splitLastDot_of_not_mem hdot, hends, hstarts]

/-! ### Object files -/

theorem baseName_ofSelf {directory base : String} (hdirectory : IsDirectory directory)
    (hbase : '/' ∉ base.toList) :
    baseName (ofSelf (directory ++ base)).object = String.ofList (selfStem base.toList) ++ ".o" := by
  have hstem : '/' ∉ (String.ofList (selfStem base.toList) ++ ".o").toList := by
    simpa using fun hmem => hbase ((stems_subset _).1 hmem)
  simp only [ofSelf]
  rw [splitPath_append hdirectory hbase, String.ofList_toList, String.append_assoc,
    baseName_append hdirectory hstem]

theorem baseName_ofTool {directory base : String} (hdirectory : IsDirectory directory)
    (hbase : '/' ∉ base.toList) :
    baseName (ofTool (directory ++ base)).object = String.ofList (toolStem base.toList) ++ ".o" := by
  have hstem : '/' ∉ (String.ofList (toolStem base.toList) ++ ".o").toList := by
    simpa using fun hmem => hbase ((stems_subset _).2 hmem)
  simp only [ofTool]
  rw [splitPath_append hdirectory hbase, String.ofList_append, String.ofList_toList,
    String.append_assoc, baseName_append hdirectory hstem]

theorem compileSelf_commands {path : String} {text : Except FileFault (List Char)} {work : FrontEnd.Work}
    (h : (FrontEnd.compileSelf path text).result = .ok work) :
    work.commands = [FrontEnd.backEnd (ofSelf (Files.resolve path))] := by
  simp only [FrontEnd.compileSelf] at h
  split at h
  · cases h
  · obtain rfl := Except.ok.inj h
    rfl

theorem tool_commands {args : List String} {read : String → Except FileFault (List Char)} {path : String}
    (hargs : CommandLine.read args = .compile path) {work : FrontEnd.Work}
    (h : (FrontEnd.tool args read).result = .ok (.done work)) :
    work.commands = [FrontEnd.backEnd (ofTool path)] := by
  simp only [FrontEnd.tool, hargs] at h
  split at h
  · cases h
  · obtain rfl := FrontEnd.ToolResult.done.inj (Except.ok.inj h)
    rfl

/-- Wherever a source is, the object files that both front ends ask the back end for have the same name exactly
if the name of the source neither ends in a dot behind some other character nor has a last dot in its midst
with only dots before it. -/
theorem object_names_eq_iff {name directory directory' : String} (hname : '/' ∉ name.toList)
    (hempty : name ≠ "") (hdot : name ≠ ".") (hdots : name ≠ "..") (hself : IsDirectory directory)
    (htool : IsDirectory directory') :
    let self := ofSelf (Files.resolve (directory ++ name))
    let tool := ofTool (directory' ++ name)
    (∀ text work, (FrontEnd.compileSelf (directory ++ name) text).result = .ok work →
      work.commands = [FrontEnd.backEnd self]) ∧
    (∀ args read work, CommandLine.read args = .compile (directory' ++ name) →
      (FrontEnd.tool args read).result = .ok (.done work) → work.commands = [FrontEnd.backEnd tool]) ∧
    (baseName self.object = baseName tool.object ↔
      ¬EndsInDot name.toList ∧ ¬StartsInDots name.toList) := by
  obtain ⟨resolved, hresolved, hpath⟩ := resolve_append hself hname hempty hdot hdots
  refine ⟨fun _ _ => compileSelf_commands, fun _ _ _ hargs => tool_commands hargs, ?_⟩
  rw [hpath, baseName_ofSelf hresolved hname, baseName_ofTool htool hname,
    ← selfStem_eq_toolStem_iff, String.append_left_inj, String.ofList_inj]

/-- A plain name gets one object file, a name with two dots at its start gets two. -/
theorem object_names_plain_and_dotted :
    baseName (ofSelf (Files.resolve "src/../prog.py")).object = baseName (ofTool "src/prog.py").object ∧
      baseName (ofSelf (Files.resolve "/src/..prog")).object ≠ baseName (ofTool "..prog").object := by
  constructor
  · obtain ⟨-, -, hiff⟩ := @object_names_eq_iff "prog.py" "src/../" "src/"
      (by decide) (by decide) (by decide) (by decide) (.inr ⟨"src/..", rfl⟩) (.inr ⟨"src", rfl⟩)
    refine hiff.mpr ?_
    have hname : "prog.py".toList = "prog".toList ++ '.' :: "py".toList := by decide
    rw [hname, endsInDot_append_iff (by decide), startsInDots_append_iff (by decide)]
    simp
  · intro hsame
    obtain ⟨-, -, hiff⟩ := @object_names_eq_iff "..prog" "/src/" ""
      (by decide) (by decide) (by decide) (by decide) (.inr ⟨"/src", rfl⟩) (.inl rfl)
    have hname : "..prog".toList = ".".toList ++ '.' :: "prog".toList := by decide
    have hagrees := hiff.mp hsame
    rw [hname, startsInDots_append_iff (by decide)] at hagrees
    exact hagrees.2 (by simp)

end BpfCompiler.Output
