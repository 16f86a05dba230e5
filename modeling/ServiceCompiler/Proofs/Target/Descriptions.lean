import ServiceCompiler.Build.Service
import ServiceCompiler.Proofs.Source.Program
import ServiceCompiler.Proofs.Target.PythonDocstring
import ServiceCompiler.Target.PythonProgram
import ServiceCompiler.Target.RustProgram
import ServiceCompiler.Target.TypeScriptProgram

/-! # Descriptions of commands

A command is described in the program by a docstring or a comment. Main statement: in TypeScript the
comment ends where it should, whatever the description; in Python the docstring does if the
description is closable, and in Rust every line is a comment if the lines of the description behind
the first one are. -/

namespace ServiceCompiler

open ServiceCompiler.Core (Service Command)
open Source (Emit Line Section Buffer Stands)
open Source.Emit (line only Writes)

theorem Source.Emit.writes_only_line {condition : Bool} (h : condition = true) (text : String) :
    (only condition (line text)).Writes (.code 0 text) := by
  intro n
  rw [only, if_pos h]
  exact List.mem_singleton_self _

theorem Text.not_isEmpty {s : String} (h : s ≠ "") : (!s.isEmpty) = true := by
  rwa [Bool.not_eq_true', ← Bool.not_eq_true, String.isEmpty_iff]

/-! ## Python -/

namespace Python

theorem grows_banner (s : Section) (b : Buffer) : b.Grows (banner s b) :=
  (((Buffer.grows_blank b).trans (Buffer.grows_line _ _)).trans (Buffer.grows_line _ _)).trans
    (Buffer.grows_blank _)

theorem writes_docstring {s : Service} {c : Command} (hc : c ∈ s.commands)
    (h : c.description ≠ "") (host : String) (port : UInt16) :
    (emitSection s host port .types).Writes (.code 1 (docstring c.description)) := by
  have hLine := Source.Emit.writes_only_line (Text.not_isEmpty h) (docstring c.description)
  have hCommand : (commandLines c).Writes (.code 1 (docstring c.description)) :=
    .after _ fun _ => .after _ fun _ => (hLine.before _).nest
  have hCommands := Source.Emit.writes_each hc hCommand
  exact .after _ fun _ => .after _ fun _ => .after _ fun _ => .after _ fun _ => .after _ fun _ =>
    hCommands

end Python

/-! ## TypeScript -/

namespace TypeScript

theorem grows_banner (s : Section) (b : Buffer) : b.Grows (banner s b) :=
  ((Buffer.grows_blank b).trans (Buffer.grows_line _ _)).trans (Buffer.grows_blank _)

theorem writes_remark {s : Service} {c : Command} (hc : c ∈ s.commands) (h : c.description ≠ "")
    (host : String) (port : UInt16) :
    (emitSection s host port .types).Writes (.code 0 (remark c.description)) := by
  have hLine := Source.Emit.writes_only_line (Text.not_isEmpty h) (remark c.description)
  have hCommand : (commandLines c).Writes (.code 0 (remark c.description)) :=
    .after _ fun _ => hLine.before _
  have hCommands := Source.Emit.writes_each hc hCommand
  exact .after _ fun _ => .after _ fun _ => .after _ fun _ => .after _ fun _ => hCommands

/-- The text up to the next `*/`, and what stands behind that. -/
def readToClose : List Char → Option (List Char × List Char)
  | '*' :: '/' :: rest => some ([], rest)
  | c :: rest => (readToClose rest).map fun (text, after) => (c :: text, after)
  | [] => none

/-- The text of a comment at the start of a program, and the program behind it. -/
def readComment (s : String) : Option (String × String) :=
  match s.toList with
  | '/' :: '*' :: rest => (readToClose rest).map fun (text, after) => (.ofList text, .ofList after)
  | _ => none

def commentEnd : Text.Phrase where
  text := "*/"
  chars := ['*', '/']
  text_eq := rfl
  closer := none
  proper := by decide

theorem readToClose_append {cs : List Char} (hFree : commentEnd.Free (cs ++ ['*']))
    (after : List Char) : readToClose (cs ++ '*' :: '/' :: after) = some (cs, after) := by
  induction cs with
  | nil => rfl
  | cons c cs ih =>
    have hRest : commentEnd.Free (cs ++ ['*']) := hFree.inside (List.suffix_cons c _).isInfix
    rw [List.cons_append, readToClose, ih hRest]
    · rfl
    · -- a comment that ended here would end in the text, or share the star of its end
      rintro rest rfl hSlash
      cases cs with
      | nil => cases hSlash
      | cons d cs =>
        obtain rfl : d = '/' := (List.cons.inj hSlash).1
        exact hFree (List.prefix_append ['*', '/'] _).isInfix

theorem free_remark (description : String) :
    commentEnd.Free ((['*', ' '] ++ (Text.replaceAll "*/" "* /" description).toList ++ [' ']) ++
      ['*']) := by
  have hCleaned : commentEnd.Free (Text.replaceAll "*/" "* /" description).toList := by
    rw [Text.toList_replaceAll]
    exact Text.Phrase.free_replaced (p := commentEnd) rfl (by decide) (by decide) (by decide) _
  rw [List.append_assoc, List.append_assoc]
  apply Text.Phrase.free_append_of_ended (by decide) (by decide)
  have hEnd : commentEnd.Blocks [' '] := by decide
  refine Text.Phrase.free_append_of_blocks ?_ hEnd (by decide)
  rwa [commentEnd, Option.toList_none, List.append_nil]

theorem readComment_remark (description after : String) :
    readComment (remark description ++ after) =
      some ("* " ++ Text.replaceAll "*/" "* /" description ++ " ", after) := by
  have hText : (remark description ++ after).toList = '/' :: '*' ::
      ((['*', ' '] ++ (Text.replaceAll "*/" "* /" description).toList ++ [' ']) ++
        '*' :: '/' :: after.toList) := by
    simp [remark]
  rw [readComment, hText]
  simp only [readToClose_append (free_remark description), Option.map_some]
  rw [Option.some.injEq, Prod.mk.injEq, ← String.toList_inj]
  constructor
  · simp
  · exact String.ofList_toList

end TypeScript

/-! ## Rust -/

namespace Rust

theorem grows_banner (s : Section) (b : Buffer) : b.Grows (banner s b) :=
  ((Buffer.grows_blank b).trans (Buffer.grows_line _ _)).trans (Buffer.grows_blank _)

theorem writes_remark (env : Env) {s : Service} {c : Command} (hc : c ∈ s.commands)
    (h : c.description ≠ "") (host : String) (port : UInt16) :
    (emitSection env s host port .types).Writes (.code 0 (remark c.description)) := by
  have hLine := Source.Emit.writes_only_line (Text.not_isEmpty h) (remark c.description)
  have hCommand : (commandLines env c).Writes (.code 0 (remark c.description)) := hLine.before _
  refine .after _ fun _ => .after _ fun _ => .after _ fun _ => ?_
  exact Source.Emit.writes_each hc (.after _ fun _ => hCommand)

/-- A line that is a comment on the item behind it, wherever it is indented to. -/
def isRemark (line : String) : Bool :=
  ['/', '/', '/'].isPrefixOf (line.toList.dropWhile fun c => c == ' ' || c == '\t')

theorem splitAt_remark (description : String) :
    ∃ first, Text.splitAt '\n' (remark description) =
      ("/// " ++ first) :: (Text.splitAt '\n' description).tail := by
  have hText : (remark description).toList = '/' :: '/' :: '/' :: ' ' :: description.toList := by
    simp [remark, toString]
  cases hPieces : Text.splitChars '\n' description.toList with
  | nil => exact absurd hPieces (Text.splitChars_ne_nil _ _)
  | cons piece pieces =>
    refine ⟨.ofList piece, ?_⟩
    rw [Text.splitAt, Text.splitAt, hText, hPieces]
    simp [Text.splitChars, hPieces, ← String.toList_inj]

theorem isRemark_lines_iff (description : String) :
    (∀ l ∈ Text.splitAt '\n' (remark description), isRemark l = true) ↔
      ∀ l ∈ (Text.splitAt '\n' description).tail, isRemark l = true := by
  obtain ⟨first, hLines⟩ := splitAt_remark description
  rw [hLines, List.forall_mem_cons]
  refine and_iff_right ?_
  simp [isRemark]

end Rust

/-- The description of a command stands on lines of its own in the program of every target. The
docstring ends with its last triple quote exactly if the description is closable, the comment in
TypeScript always ends with its last `*/`, and all lines in Rust are comments exactly if those that
the description has behind its first one are. -/
theorem descriptions_confined_iff (s : Service) (host : String) (port : UInt16) (c : Command)
    (hc : c ∈ s.commands) (h : c.description ≠ "") :
    (∃ rest, Stands (Python.source s host port) ("    " ++ Python.docstring c.description) rest ∧
      (Python.readDocstring (Python.docstring c.description ++ ("\n" ++ rest)) =
          some (Text.replaceAll "\"\"\"" "'''" c.description, "\n" ++ rest) ↔
        Python.Closable c.description)) ∧
    (∃ rest, Stands (TypeScript.source s host port) (TypeScript.remark c.description) rest ∧
      TypeScript.readComment (TypeScript.remark c.description ++ ("\n" ++ rest)) =
        some ("* " ++ Text.replaceAll "*/" "* /" c.description ++ " ", "\n" ++ rest)) ∧
    (∃ rest, Stands (Rust.source s host port) (Rust.remark c.description) rest ∧
      ((∀ l ∈ Text.splitAt '\n' (Rust.remark c.description), Rust.isRemark l = true) ↔
        ∀ l ∈ (Text.splitAt '\n' c.description).tail, Rust.isRemark l = true)) := by
  have hMargin (text : String) : String.join [] ++ text = text := String.empty_append
  refine ⟨?_, ?_, ?_⟩
  · have hSome : Python.docstring c.description ≠ "" := by
      simp [Python.docstring, ← String.toList_inj]
    obtain ⟨rest, hStands⟩ := Source.stands_of_writes Python.grows_banner .types
      (Python.writes_docstring hc h host port) hSome
    exact ⟨rest, hStands, Python.readDocstring_append_iff _ _⟩
  · have hSome : TypeScript.remark c.description ≠ "" := by
      simp [TypeScript.remark, ← String.toList_inj]
    obtain ⟨rest, hStands⟩ := Source.stands_of_writes TypeScript.grows_banner .types
      (TypeScript.writes_remark hc h host port) hSome
    rw [List.replicate_zero, hMargin] at hStands
    exact ⟨rest, hStands, TypeScript.readComment_remark _ _⟩
  · have hSome : Rust.remark c.description ≠ "" := by
      simp [Rust.remark, ← String.toList_inj, toString]
    obtain ⟨rest, hStands⟩ := Source.stands_of_writes Rust.grows_banner .types
      (Rust.writes_remark (.of s) hc h host port) hSome
    rw [List.replicate_zero, hMargin] at hStands
    exact ⟨rest, hStands, Rust.isRemark_lines_iff _⟩

/-- A description with all that could end its docstring or its comment, on two lines. -/
def greeting : String := "\\\"\"\"*/\n  /// \\\""

def greeter : Surface.Program where
  items := [.command ⟨"greet", greeting, [], none, []⟩]

theorem descriptions_confined_iff_greeter : ∃ b, Build.build greeter = .ok b ∧
    ∃ c ∈ b.service.commands, c.description = greeting ∧
    (∃ rest, Stands (Python.source b.service "0.0.0.0" 8000)
        ("    " ++ Python.docstring greeting) rest ∧
      Python.readDocstring (Python.docstring greeting ++ ("\n" ++ rest)) =
        some ("\\'''*/\n  /// \\\"", "\n" ++ rest)) ∧
    (∃ rest, Stands (TypeScript.source b.service "0.0.0.0" 3000) (TypeScript.remark greeting) rest ∧
      TypeScript.readComment (TypeScript.remark greeting ++ ("\n" ++ rest)) =
        some ("* \\\"\"\"* /\n  /// \\\" ", "\n" ++ rest)) ∧
    ∀ l ∈ Text.splitAt '\n' (Rust.remark greeting), Rust.isRemark l = true := by
  obtain ⟨b, hBuild, c, hc, hDescription⟩ : ∃ b, Build.build greeter = .ok b ∧
      ∃ c ∈ b.service.commands, c.description = greeting := ⟨_, rfl, _, .head _, rfl⟩
  have hSome : c.description ≠ "" := by
    rw [hDescription]
    decide
  have hClosable : Python.Closable greeting := by decide
  obtain ⟨⟨rest, hStands, hRead⟩, -, -, -, hRust⟩ :=
    descriptions_confined_iff b.service "0.0.0.0" 8000 c hc hSome
  obtain ⟨-, hTypeScript, -⟩ := descriptions_confined_iff b.service "0.0.0.0" 3000 c hc hSome
  rw [hDescription] at hStands hRead hRust hTypeScript
  exact ⟨b, hBuild, c, hc, hDescription, ⟨rest, hStands, hRead.mpr hClosable⟩, hTypeScript,
    hRust.mpr (by decide)⟩

/-- Descriptions that end in a quote or a backslash, and one with a second line. -/
def notes : Surface.Program where
  items := [.command ⟨"greet", "say \"hi\"", [], none, []⟩, .command ⟨"open", "in C:\\", [], none, []⟩,
    .command ⟨"walk", "first\nsecond", [], none, []⟩]

theorem descriptions_unconfined_notes : ∃ b, Build.build notes = .ok b ∧
    (∃ c ∈ b.service.commands,
      Line.code 1 (Python.docstring c.description) ∈
        (Python.emitSection b.service "0.0.0.0" 8000 .types 0).lines ∧
      Python.readDocstring (Python.docstring c.description) = some ("say \"hi", "\"")) ∧
    (∃ c ∈ b.service.commands,
      Line.code 1 (Python.docstring c.description) ∈
        (Python.emitSection b.service "0.0.0.0" 8000 .types 0).lines ∧
      Python.readDocstring (Python.docstring c.description) = none) ∧
    ∃ c ∈ b.service.commands,
      Line.code 0 (Rust.remark c.description) ∈
        (Rust.emitSection (.of b.service) b.service "0.0.0.0" 8080 .types 0).lines ∧
      ∃ l ∈ Text.splitAt '\n' (Rust.remark c.description), Rust.isRemark l = false := by
  obtain ⟨b, hBuild⟩ : ∃ b, Build.build notes = .ok b := ⟨_, rfl⟩
  refine ⟨b, hBuild, ?_⟩
  cases hBuild
  refine ⟨⟨_, .head _, Python.writes_docstring (.head _) (by decide) _ _ 0, by decide⟩, ?_, ?_⟩
  · exact ⟨_, .tail _ (.head _), Python.writes_docstring (.tail _ (.head _)) (by decide) _ _ 0,
      by decide⟩
  · exact ⟨_, .tail _ (.tail _ (.head _)),
      Rust.writes_remark _ (.tail _ (.tail _ (.head _))) (by decide) _ _ 0, by decide⟩

end ServiceCompiler
