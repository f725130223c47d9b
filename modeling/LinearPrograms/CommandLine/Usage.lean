import LinearPrograms.CommandLine.Arguments

/-!
# Usage

What the command line says about itself: a short form with every complaint, and the full help.
-/

namespace LinearPrograms.Usage

def short : String :=
  "usage: lpsolver [-h] [--engine \x7bcbc,highs\x7d] [--scaling SCALING] [--json] [-v]\n" ++
    "                problem\n"

def help : String :=
  short ++
    "\nSolve a linear (or mixed-integer) maximization problem\n" ++
    "\npositional arguments:\n" ++
    "  problem               JSON problem file with objective, constraints and\n" ++
    "                        optional bounds\n" ++
    "\noptions:\n" ++
    "  -h, --help            show this help message and exit\n" ++
    "  --engine \x7bcbc,highs\x7d  Solver engine (default: LPSOLVER_ENGINE or highs)\n" ++
    "                        (default: None)\n" ++
    "  --scaling SCALING     Scaling mode for the first attempt (overrides the\n" ++
    "                        problem file) (default: None)\n" ++
    "  --json                Print the result as JSON (default: False)\n" ++
    "  -v, --verbose         Enable verbose (debug) logging (default: False)\n"

def complaint (cause : Misuse) : String := short ++ s!"lpsolver: error: {cause.message}\n"

end LinearPrograms.Usage
