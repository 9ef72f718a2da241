/-!
# The default settings file

The text of the settings file that is read when no other is named.
-/

namespace PoissonFactor.Settings

/-- The lines of the default settings file. -/
def defaultLines : List String :=
  ["# Hierarchical Poisson Factorization defaults",
    "hpf:",
    "  a: 0.3",
    "  a_prime: 0.3",
    "  b_prime: 1.0",
    "  c: 0.3",
    "  c_prime: 0.3",
    "  d_prime: 1.0",
    "  k: 10",
    "",
    "train:",
    "  iteration_frequency: 10",
    "  seed: 0",
    "  max_offset_shape: 0.1",
    "  max_offset_rate: 0.1",
    "  prob_prediction: true",
    "  verbose: true",
    "  backend: numpy",
    "",
    "stopping:",
    "  threshold: 0.0001",
    "  min_iterations: 0",
    "  max_iterations: 200",
    "",
    "split:",
    "  validation_frac: 0.1",
    "  seed: 42"]

/-- The text of the default settings file. -/
def defaultText : String :=
  String.join (defaultLines.map (· ++ "\n"))

end PoissonFactor.Settings
