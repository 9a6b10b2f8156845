import SkillKit.Console.Grammar
import SkillKit.Text.Wrap

/-!
# Help pages

A page shows how a command is used, what it does, its options, and the commands of a group.
-/

namespace SkillKit.Console

open Text

def pageWidth : Nat := 80

def columnWidth : Nat := 30

def blanks (n : Nat) : String :=
  repeated n " "

def Command.usage (c : Command α) (path : String) : String :=
  " ".intercalate (["Usage:", path, "[OPTIONS]"] ++ c.arguments.map (·.placeholder))

def groupUsage (path : String) : String :=
  s!"Usage: {path} [OPTIONS] COMMAND [ARGS]..."

def describe (about : List String) : String :=
  "\n\n".intercalate (about.map fun paragraph =>
    "\n".intercalate ((wrapLines (pageWidth - 2) paragraph).map ("  " ++ ·)))

def listRow (width : Nat) : String × String → String
  | (left, right) =>
    let column := width + 2
    let lines := wrapLines (max (pageWidth - column - 2) 10) right
    if right.isEmpty then s!"  {left}\n"
    else
      let gap := if left.length ≤ width then blanks (column - left.length)
        else "\n" ++ blanks (column + 2)
      s!"  {left}{gap}" ++ ("\n" ++ blanks (column + 2)).intercalate lines ++ "\n"

def titledList (heading : String) (rows : List (String × String)) : String :=
  if rows.isEmpty then ""
  else
    let widest := (rows.map (·.1.length)).foldl max 0
    s!"\n{heading}:\n" ++ String.join (rows.map (listRow (min widest columnWidth)))

def brief (about : List String) : String :=
  let ws := words (about.headD "")
  let front := ws.takeWhile fun w => !endsWith w "."
  " ".intercalate (ws.take (front.length + 1))

def pageOf (usage : String) (about : List String) (options : List Opt)
    (commands : List (String × List String)) : String :=
  let rows := (commands.map fun (name, about) => (name, brief about)).mergeSort (·.1 ≤ ·.1)
  s!"{usage}\n\n{describe about}\n" ++ titledList "Options" (options.map (·.row))
    ++ titledList "Commands" rows

def Command.page (c : Command α) (path : String) : String :=
  pageOf (c.usage path) c.about c.allOptions []

def Group.page (g : Group α) (path : String) : String :=
  pageOf (groupUsage path) g.about [helpOption] (g.commands.map fun c => (c.name, c.about))

def Grammar.page (g : Grammar α) : String :=
  pageOf (groupUsage g.name) g.about [versionOption, helpOption]
    (g.commands.map (fun c => (c.name, c.about)) ++ g.groups.map fun s => (s.name, s.about))

end SkillKit.Console
