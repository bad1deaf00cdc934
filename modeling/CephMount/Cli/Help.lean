import CephMount.Cli
import CephMount.Text.Terminal

/-!
The help text: what the program or a command does, how it is called, and two-column lists of
commands, arguments and options, an option's row ending with its environment variable, default
and values. What is shown is the plain text of the styled text (`Text.Terminal.plain`).
-/
namespace CephMount.Cli

namespace Help

open Text.Terminal

def about : String := "Mounts a CephFS share according to relation data and unit config"

def program : String := "cephfs-client"

def blanks (n : Nat) : String := String.ofList (List.replicate n ' ')

def indentBreaks (col : Nat) (text : String) : String :=
  String.join (text.toList.map fun c => if c == '\n' then "\n" ++ blanks col else c.toString)

/-- One row of a list: its name as it reads, the name styled, and its description. -/
structure Row where
  name : String
  styled : String
  text : String

/-- The lines of a list, indented by two blanks: names padded to the longest name plus two
blanks, descriptions after them. -/
def columns (rows : List Row) : String :=
  let longest := rows.foldl (fun m r => max m r.name.length) 0
  "\n".intercalate (rows.map fun r =>
    "  " ++ r.styled ++ blanks (longest + 2 - r.name.length) ++
      indentBreaks (longest + 4) r.text)

def heading (title : String) : String := boldUnderlined (title ++ ":")

/-- The description of an option with where its value may come from. -/
def flagText (env : List (String × String)) (f : Flag) : String :=
  let envNote := f.env?.map fun var => "[env: " ++ var ++ "=" ++ (env.lookup var).getD "" ++ "]"
  let defaultNote := f.default?.map fun d => "[default: " ++ d ++ "]"
  let choiceNote := if f.choices.isEmpty then none
    else some ("[possible values: " ++ ", ".intercalate f.choices ++ "]")
  " ".intercalate (f.help :: (envNote.toList ++ defaultNote.toList ++ choiceNote.toList))

def flagRow (env : List (String × String)) (f : Flag) : Row :=
  let value := (f.value?.map (" <" ++ · ++ ">")).getD ""
  { name := "    --" ++ f.long ++ value, styled := "    " ++ bold ("--" ++ f.long) ++ value,
    text := flagText env f }

def helpRow : Row :=
  { name := "-h, --help", styled := bold "-h" ++ ", " ++ bold "--help", text := "Print help" }

def commandRow (name about : String) : Row := { name := name, styled := bold name, text := about }

def helpAbout : String := "Print this message or the help of the given subcommand(s)"

def options (env : List (String × String)) (flags : List Flag) : String :=
  heading "Options" ++ "\n" ++ columns (flags.map (flagRow env) ++ [helpRow])

def usage (call rest : String) : String := heading "Usage" ++ " " ++ bold call ++ " " ++ rest

/-- The help of the program, of one command, or of `help`, styled. -/
def styledText (env : List (String × String)) : Topic → String
  | .program =>
    about ++ "\n\n" ++ usage program "[OPTIONS] <COMMAND>" ++ "\n\n" ++ heading "Commands" ++
      "\n" ++ columns ((Command.table.map fun (_, name, about) => commandRow name about) ++
        [commandRow "help" helpAbout]) ++
      "\n\n" ++ options env globalFlags ++ "\n"
  | .command c =>
    c.about ++ "\n\n" ++ usage (program ++ " " ++ c.name) "[OPTIONS]" ++ "\n\n" ++
      options env (commandFlags c ++ globalFlags) ++ "\n"
  | .helpCommand =>
    helpAbout ++ "\n\n" ++ usage (program ++ " help") "[COMMAND]..." ++ "\n\n" ++
      heading "Arguments" ++ "\n" ++
      columns [{ name := "[COMMAND]...", styled := "[COMMAND]...",
                 text := "Print help for the subcommand(s)" }] ++ "\n"

/-- The help of the program, of one command, or of `help`, as shown. -/
def text (env : List (String × String)) (topic : Topic) : String := plain (styledText env topic)

end Help

end CephMount.Cli
