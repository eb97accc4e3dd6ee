import BenchBoard.Command.Param
import BenchBoard.Text.LowerCase
/-!
# BenchBoard.Command.Shell

**Completion of command lines.** For each of five shells there is a script that completes
commands and options, and a text that tells how to install it.

The scripts complete the first word to a command and every later word to an option of that
command. They are generated from the parameters of the commands, so they know the same
options as the reader of command lines.
-/

namespace BenchBoard.Command

open BenchBoard.Text

/-- The shells that have a script. -/
inductive Shell
  | bash
  | zsh
  | fish
  | powershell
  | elvish
  deriving DecidableEq, Repr

namespace Shell

/-- The shell of a name, whatever its letter case. -/
def ofName? (name : String) : Option Shell :=
  match lower name with
  | "bash" => some bash
  | "zsh" => some zsh
  | "fish" => some fish
  | "powershell" | "pwsh" => some powershell
  | "elvish" => some elvish
  | _ => none

/-- What is said of a name that no shell has. -/
def unsupported (name : String) : String :=
  s!"Unsupported shell: '{name}'. Supported shells: bash, zsh, fish, powershell, elvish"

/-! ### Installation -/

def instructions : Shell → String
  | bash => "# Add to ~/.bashrc:\neval \"$(bmdash completion bash)\"\n"
  | zsh => "# Add to ~/.zshrc:\neval \"$(bmdash completion zsh)\"\n"
  | fish => "# Save to the fish completions directory:\n" ++
      "bmdash completion fish > ~/.config/fish/completions/bmdash.fish\n"
  | powershell => "# Add to your PowerShell profile:\n" ++
      "bmdash completion powershell | Out-String | Invoke-Expression\n"
  | elvish => "# Add to ~/.config/elvish/rc.elv:\neval (bmdash completion elvish | slurp)\n"

/-- How the script of the shell of this name is installed. -/
def installation (name : String) : String :=
  match ofName? name with
  | some shell => shell.instructions
  | none => unsupported (lower name) ++ "\n"

/-! ### Scripts -/

/-- The words that a command line can begin with. -/
def firstWords : List String :=
  Verb.all.map Verb.name ++ [helpWord] ++ commonOptions.map Param.shown

/-- The options of a command, as they are written. -/
def optionWords (verb : Verb) : List String :=
  verb.options.map Param.shown

/-- The words, with blanks between them. -/
def spaced (words : List String) : String :=
  String.intercalate " " words

/-- The words in quotes, with commas between them. -/
def quoted (words : List String) : String :=
  String.intercalate ", " (words.map fun word => s!"'{word}'")

/-- A line for each command with the words behind it. -/
def forEachVerb (line : (verb : String) → (words : List String) → String) : String :=
  String.join (Verb.all.map fun verb => line verb.name (optionWords verb))

/-- Asks `compgen` for the words that fit. -/
def bashScript : String :=
  "_bmdash() \x7b\n" ++
    s!"    local words=\"{spaced firstWords}\"\n" ++
    "    if (( COMP_CWORD > 1 )); then\n" ++
    "        case \"$\x7bCOMP_WORDS[1]\x7d\" in\n" ++
    forEachVerb (fun verb words => s!"            {verb}) words=\"{spaced words}\" ;;\n") ++
    "        esac\n" ++
    "    fi\n" ++
    "    COMPREPLY=($(compgen -W \"$words\" -- \"$\x7bCOMP_WORDS[COMP_CWORD]\x7d\"))\n" ++
    "\x7d\n" ++
    "complete -o default -F _bmdash bmdash\n"

/-- Adds the words with `compadd`, and files behind a command. -/
def zshScript : String :=
  "#compdef bmdash\n" ++
    "_bmdash() \x7b\n" ++
    "    if (( CURRENT == 2 )); then\n" ++
    s!"        compadd -- {spaced firstWords}\n" ++
    "    else\n" ++
    "        case \"$words[2]\" in\n" ++
    forEachVerb (fun verb words => s!"            {verb}) compadd -- {spaced words} ;;\n") ++
    "        esac\n" ++
    "        _files\n" ++
    "    fi\n" ++
    "\x7d\n" ++
    "compdef _bmdash bmdash\n"

/-- Declares the words under a condition each. -/
def fishScript : String :=
  s!"complete -c bmdash -n __fish_use_subcommand -f -a \"{spaced firstWords}\"\n" ++
    forEachVerb fun verb words =>
      s!"complete -c bmdash -n \"__fish_seen_subcommand_from {verb}\" -a \"{spaced words}\"\n"

/-- Registers a block that filters the words. -/
def powershellScript : String :=
  "Register-ArgumentCompleter -Native -CommandName bmdash -ScriptBlock \x7b\n" ++
    "    param($word, $ast, $position)\n" ++
    s!"    $words = @({quoted firstWords})\n" ++
    "    if ($ast.CommandElements.Count -gt 2) \x7b\n" ++
    "        switch ($ast.CommandElements[1].Value) \x7b\n" ++
    forEachVerb (fun verb words =>
      s!"            '{verb}' \x7b $words = @({quoted words}) \x7d\n") ++
    "        \x7d\n" ++
    "    \x7d\n" ++
    "    $words | Where-Object \x7b $_ -like \"$word*\" \x7d\n" ++
    "\x7d\n"

/-- Puts the words from a function of the words before. -/
def elvishScript : String :=
  "set edit:completion:arg-completer[bmdash] = \x7b|@words|\n" ++
    "    if (<= (count $words) 2) \x7b\n" ++
    s!"        put {spaced firstWords}\n" ++
    forEachVerb (fun verb words =>
      s!"    \x7d elif (eq $words[1] {verb}) \x7b\n        put {spaced words}\n") ++
    "    \x7d\n" ++
    "\x7d\n"

def script : Shell → String
  | bash => bashScript
  | zsh => zshScript
  | fish => fishScript
  | powershell => powershellScript
  | elvish => elvishScript

end Shell

end BenchBoard.Command
