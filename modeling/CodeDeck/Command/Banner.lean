namespace CodeDeck.Command

/-!
# The banner

The name of the program in large letters, shown before a preview.
-/

/-- The banner. -/
def banner : String :=
  "        \n" ++
    "██████╗░ ███████╗ ░█████╗░ ██╗░░██╗ ░██████╗ ░█████╗░ ░█████╗░ ██████╗░ ███████╗\n" ++
    "██╔══██╗ ██╔════╝ ██╔══██╗ ██║░██╔╝ ██╔════╝ ██╔══██╗ ██╔══██╗ ██╔══██╗ ██╔════╝\n" ++
    "██║░░██║ █████╗░░ ██║░░╚═╝ █████═╝░ ╚█████╗░ ██║░░╚═╝ ██║░░██║ ██████╔╝ █████╗░░\n" ++
    "██║░░██║ ██╔══╝░░ ██║░░██╗ ██╔═██╗░ ░╚═══██╗ ██║░░██╗ ██║░░██║ ██╔═══╝░ ██╔══╝░░\n" ++
    "██████╔╝ ███████╗ ╚█████╔╝ ██║░╚██╗ ██████╔╝ ╚█████╔╝ ╚█████╔╝ ██║░░░░░ ███████╗\n" ++
    "╚═════╝░ ╚══════╝ ░╚════╝░ ╚═╝░░╚═╝ ╚═════╝░ ░╚════╝░ ░╚════╝░ ╚═╝░░░░░ ╚══════╝\n"

end CodeDeck.Command
