import AiScript.Main
import AiScript.Storage.FileTree
import AiScript.Proofs.Stores.Links
import AiScript.Proofs.Stores.Run
import AiScript.Proofs.Stores.Removal
import AiScript.Proofs.Stores.Separation
import AiScript.Proofs.Catalog.SpellIndex
import AiScript.Proofs.Stores.Permutation
import AiScript.Proofs.Catalog.Growth
import AiScript.Proofs.Stores.Growth
import AiScript.Proofs.Stores.Dangling
import AiScript.Proofs.Stores.Warnings
import AiScript.Proofs.Stores.Contexts
import AiScript.Proofs.Stores.Waypoints
import AiScript.Proofs.Catalog.Faults
import AiScript.Proofs.Catalog.Index
import AiScript.Proofs.Catalog.Owners
import AiScript.Proofs.Catalog.HelperSlots
import AiScript.Proofs.Stores.Log
import AiScript.Proofs.Row.LegalEvent
import AiScript.Proofs.Row.Speaker
import AiScript.Proofs.Row.Stages
import AiScript.Proofs.Row.Reasons
import AiScript.Proofs.Stores.Rejections
import AiScript.Proofs.Stores.Speakers
import AiScript.Proofs.DataSet.FaultLines
import AiScript.Proofs.Row.Leaves
import AiScript.Proofs.DataSet.Steps
