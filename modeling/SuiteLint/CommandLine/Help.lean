import SuiteLint.CommandLine.Option

/-!
# How the command is used

The usage is shown with every complaint about options, and at the top of the help.
-/

namespace SuiteLint

namespace Help

/-- The name the command goes by in its messages. -/
def command : Text := "python -m rflint"

/-- The usage of the command. -/
def usage : Text := Text.page [
    "usage: python -m rflint [-h] [--extension RULENAME] [--error RULENAME]",
    "                        [--ignore RULENAME] [--warning RULENAME] [--list]",
    "                        [--describe] [--no-filenames] [--format FORMAT]",
    "                        [--version] [--verbose] [--configure CONFIGURE]",
    "                        [--recursive] [--rulefile RULEFILE]",
    "                        [--argumentfile ARGUMENTFILE]",
    "                        ..."]

/-- What is said of each option. -/
def options : Text := Text.page [
    "positional arguments:",
    "  file",
    "",
    "options:",
    "  -h, --help            show this help message and exit",
    "  --extension RULENAME, -E RULENAME",
    "                        File extensions to analyse",
    "  --error RULENAME, -e RULENAME",
    "                        Assign a severity of ERROR to the given RULENAME",
    "  --ignore RULENAME, -i RULENAME",
    "                        Ignore the given RULENAME",
    "  --warning RULENAME, -w RULENAME",
    "                        Assign a severity of WARNING for the given RULENAME",
    "  --list, -l            show a list of known rules and exit",
    "  --describe, -d        describe the given ruless",
    "  --no-filenames        suppress the printing of filenames",
    "  --format FORMAT, -f FORMAT",
    "                        Define the output format",
    "  --version             Display version number and exit",
    "  --verbose, -v         Give verbose output",
    "  --configure CONFIGURE, -c CONFIGURE",
    "                        Configure a rule",
    "  --recursive, -r       Recursively scan subfolders in a directory",
    "  --rulefile RULEFILE, -R RULEFILE",
    "                        import additional rules from the given RULEFILE",
    "  --argumentfile ARGUMENTFILE, -A ARGUMENTFILE",
    "                        read arguments from the given file"]

/-- Further explanations. -/
def notes : Text := Text.page [
    "You can use 'all' in place of RULENAME to refer to all rules. ",
    "",
    "For example: '--ignore all --warn DuplicateTestNames' will ignore all",
    "rules except DuplicateTestNames.",
    "",
    "FORMAT is a string that performs a substitution on the following ",
    "patterns: \x7bseverity\x7d, \x7blinenumber\x7d, \x7bchar\x7d, " ++
      "\x7bmessage\x7d, and \x7brulename\x7d.",
    "",
    "For example: --format 'line: \x7blinenumber\x7d: message: \x7bmessage\x7d'. ",
    "",
    "ARGUMENTFILE is a filename with contents that match the format of ",
    "standard robot framework argument files",
    "",
    "If you give a directory as an argument, all files in the directory",
    "with the suffix .txt, .robot or .tsv will be processed. With the ",
    "--recursive option, subfolders within the directory will also be",
    "processed."]

/-- The help. -/
def text : Text :=
  usage ++ "\nA style checker for robot framework plain text files.\n\n" ++ options ++ "\n" ++ notes

/-- The complaint about wrong usage. -/
def complaint (fault : UsageFault) : Text :=
  usage ++ Text.line (command ++ ": error: " ++ fault.message)

end Help

end SuiteLint
