import ScriptRealm.Session.Step
import ScriptRealm.Proofs.Collection.Deletion
import ScriptRealm.Proofs.Collection.Refinement
import ScriptRealm.Proofs.Setup.Naming
import ScriptRealm.Proofs.Value.Sharing
import ScriptRealm.Proofs.Value.Equality
import ScriptRealm.Proofs.Dispatch.Conversion
import ScriptRealm.Proofs.Number.Meaning
import ScriptRealm.Proofs.Value.Enclosed
import ScriptRealm.Proofs.Collection.Stringification
import ScriptRealm.Proofs.Collection.Views
import ScriptRealm.Proofs.Collection.Coherence
import ScriptRealm.Proofs.Dispatch.Asking
import ScriptRealm.Proofs.Setup.Keys
import ScriptRealm.Proofs.Setup.Registration
import ScriptRealm.Proofs.Dispatch.Locality
import ScriptRealm.Proofs.Dispatch.Handles
import ScriptRealm.Proofs.Setup.Strategies
import ScriptRealm.Proofs.Setup.SharedKeys
import ScriptRealm.Proofs.Dispatch.ChainKeys
import ScriptRealm.Proofs.Setup.Calls
import ScriptRealm.Proofs.Dispatch.Tracing
import ScriptRealm.Proofs.Dispatch.Characters
import ScriptRealm.Proofs.Collection.Writing
import ScriptRealm.Proofs.Collection.Rendering
import ScriptRealm.Proofs.Number.Nearest
import ScriptRealm.Proofs.Number.Rounding
import ScriptRealm.Proofs.Number.Classification
import ScriptRealm.Proofs.Number.Decimals
import ScriptRealm.Proofs.Number.Reading
import ScriptRealm.Proofs.Number.RoundTrip
import ScriptRealm.Proofs.Number.Places
import ScriptRealm.Proofs.Number.ToFixed
import ScriptRealm.Proofs.Number.Positions
import ScriptRealm.Proofs.Dispatch.Methods
import ScriptRealm.Proofs.Collection.Ownership
import ScriptRealm.Proofs.Text.Occurrences
import ScriptRealm.Proofs.Text.Splitting
import ScriptRealm.Proofs.Text.Indexing
import ScriptRealm.Proofs.Dispatch.HostForms
import ScriptRealm.Proofs.Number.Lossless
