import ServerLaunch.CommandLine.Completion

/-!
# Scripts for Shells

What a user loads into a shell, so that the shell asks for completions.

A script defines a function and ties it to the name of the program. The function runs the
program with the line so far in the environment, and hands the answer to the shell, entry by
entry: names of files and directories are left to the shell, other words come from the
program.

## Main definitions

* `completionFunction`: The name of the function.
* `shellScript`: The script for a shell.
* `versionCommand`: How the one shell of which the version matters is asked for it.
-/

namespace ServerLaunch

namespace CommandLine

/-- The name of the function that a script defines. -/
def completionFunction : String := "_appium_launcher_completion"

/-- The variable by which a script asks, set for a shell. -/
def askFor (shell : String) : String :=
  requestVariable ++ "=" ++ shell ++ "_complete"

/-- The script for `bash`. -/
def bashScript : String :=
  lines
    [completionFunction ++ "() \x7b",
      "    local IFS=$'\\n'",
      "    local response",
      "",
      "    response=$(env COMP_WORDS=\"$\x7bCOMP_WORDS[*]\x7d\" COMP_CWORD=$COMP_CWORD " ++
        askFor "bash" ++ " $1)",
      "",
      "    for completion in $response; do",
      "        IFS=',' read type value <<< \"$completion\"",
      "",
      "        if [[ $type == 'dir' ]]; then",
      "            COMPREPLY=()",
      "            compopt -o dirnames",
      "        elif [[ $type == 'file' ]]; then",
      "            COMPREPLY=()",
      "            compopt -o default",
      "        elif [[ $type == 'plain' ]]; then",
      "            COMPREPLY+=($value)",
      "        fi",
      "    done",
      "",
      "    return 0",
      "\x7d",
      "",
      completionFunction ++ "_setup() \x7b",
      "    complete -o nosort -F " ++ completionFunction ++ " " ++ programName,
      "\x7d",
      "",
      completionFunction ++ "_setup;"]

/-- The script for `zsh`. -/
def zshScript : String :=
  lines
    ["#compdef " ++ programName,
      "",
      completionFunction ++ "() \x7b",
      "    local -a completions",
      "    local -a completions_with_descriptions",
      "    local -a response",
      "    (( ! $+commands[" ++ programName ++ "] )) && return 1",
      "",
      "    response=(\"$\x7b(@f)$(env COMP_WORDS=\"$\x7bwords[*]\x7d\" " ++
        "COMP_CWORD=$((CURRENT-1)) " ++ askFor "zsh" ++ " " ++ programName ++ ")\x7d\")",
      "",
      "    for type key descr in $\x7bresponse\x7d; do",
      "        if [[ \"$type\" == \"plain\" ]]; then",
      "            if [[ \"$descr\" == \"_\" ]]; then",
      "                completions+=(\"$key\")",
      "            else",
      "                completions_with_descriptions+=(\"$key\":\"$descr\")",
      "            fi",
      "        elif [[ \"$type\" == \"dir\" ]]; then",
      "            _path_files \x2d/",
      "        elif [[ \"$type\" == \"file\" ]]; then",
      "            _path_files -f",
      "        fi",
      "    done",
      "",
      "    if [ -n \"$completions_with_descriptions\" ]; then",
      "        _describe -V unsorted completions_with_descriptions -U",
      "    fi",
      "",
      "    if [ -n \"$completions\" ]; then",
      "        compadd -U -V unsorted -a completions",
      "    fi",
      "\x7d",
      "",
      "if [[ $zsh_eval_context[-1] == loadautofunc ]]; then",
      "    # autoload from fpath, call function directly",
      "    " ++ completionFunction ++ " \"$@\"",
      "else",
      "    # eval/source/. command, register function for later",
      "    compdef " ++ completionFunction ++ " " ++ programName,
      "fi"]

/-- The script for `fish`. -/
def fishScript : String :=
  lines
    ["function " ++ completionFunction ++ ";",
      "    set -l response (env " ++ askFor "fish" ++ " COMP_WORDS=(commandline -cp) " ++
        "COMP_CWORD=(commandline -t) " ++ programName ++ ");",
      "",
      "    for completion in $response;",
      "        set -l metadata (string split \",\" $completion);",
      "",
      "        if test $metadata[1] = \"dir\";",
      "            __fish_complete_directories $metadata[2];",
      "        else if test $metadata[1] = \"file\";",
      "            __fish_complete_path $metadata[2];",
      "        else if test $metadata[1] = \"plain\";",
      "            echo $metadata[2];",
      "        end;",
      "    end;",
      "end;",
      "",
      "complete --no-files --command " ++ programName ++ " --arguments \"(" ++
        completionFunction ++ ")\";"]

/-- The script for PowerShell. -/
def powershellScript : String :=
  lines
    ["Register-ArgumentCompleter -Native -CommandName " ++ programName ++ " -ScriptBlock \x7b",
      "    param($wordToComplete, $commandAst, $cursorPosition)",
      "",
      "    $prev_complete = $env:" ++ requestVariable,
      "    $prev_words = $env:" ++ lineVariable,
      "    $prev_cword = $env:" ++ placeVariable,
      "",
      "    $env:" ++ requestVariable ++ " = 'powershell_complete'",
      "    $env:" ++ lineVariable ++ " = $commandAst.ToString()",
      "    if ($wordToComplete) \x7b",
      "        $env:" ++ placeVariable ++ " = $commandAst.CommandElements.Count - 1",
      "    \x7d else \x7b",
      "        $env:" ++ placeVariable ++ " = $commandAst.CommandElements.Count",
      "    \x7d",
      "",
      "    try \x7b",
      "        $response = & " ++ programName ++ " 2>$null",
      "    \x7d finally \x7b",
      "        $env:" ++ requestVariable ++ " = $prev_complete",
      "        $env:" ++ lineVariable ++ " = $prev_words",
      "        $env:" ++ placeVariable ++ " = $prev_cword",
      "    \x7d",
      "",
      "    if (-not $response) \x7b return \x7d",
      "",
      "    $prefix = \"$wordToComplete*\"",
      "    $lines = $response -split \"\x60n\"",
      "    for ($i = 0; $i + 2 -lt $lines.Count; $i += 3) \x7b",
      "        $type = $lines[$i]",
      "        $value = $lines[$i + 1]",
      "        $descr = $lines[$i + 2]",
      "        if (-not $type) \x7b continue \x7d",
      "",
      "        if ($type -eq 'plain') \x7b",
      "            $tip = if ($descr -and $descr -ne '_') \x7b $descr \x7d else \x7b $value \x7d",
      "            [System.Management.Automation.CompletionResult]::new(",
      "                $value, $value, 'ParameterValue', $tip)",
      "        \x7d elseif ($type -eq 'dir') \x7b",
      "            Get-ChildItem -Directory -Path $prefix -ErrorAction SilentlyContinue |",
      "                ForEach-Object \x7b",
      "                    [System.Management.Automation.CompletionResult]::new(",
      "                        $_.FullName, $_.Name, 'ProviderContainer', $_.FullName)",
      "                \x7d",
      "        \x7d elseif ($type -eq 'file') \x7b",
      "            Get-ChildItem -Path $prefix -ErrorAction SilentlyContinue |",
      "                ForEach-Object \x7b",
      "                    $kind = 'ProviderItem'",
      "                    if ($_.PSIsContainer) \x7b $kind = 'ProviderContainer' \x7d",
      "                    [System.Management.Automation.CompletionResult]::new(",
      "                        $_.FullName, $_.Name, $kind, $_.FullName)",
      "                \x7d",
      "        \x7d",
      "    \x7d",
      "\x7d"]

/-- The script for a shell. -/
def shellScript : Shell → String
  | .bash => bashScript
  | .zsh => zshScript
  | .fish => fishScript
  | .powershell => powershellScript

/-- What is said about a shell that is not found, so that its version is not known. -/
def versionUnknown : String :=
  "Couldn't detect Bash version, shell completion is not supported."

/-- The command that makes `bash` tell its version. -/
def versionCommand (bash : String) : List String :=
  [bash, "--norc", "-c", "echo \"$\x7bBASH_VERSION\x7d\""]

end CommandLine

end ServerLaunch
