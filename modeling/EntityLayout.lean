import EntityLayout.Layout.Build
import EntityLayout.Layout.Json
import EntityLayout.Proofs.Layout.Erasure
import EntityLayout.Proofs.Layout.Extension
import EntityLayout.Proofs.Layout.Identifiers
import EntityLayout.Proofs.Layout.JsonReading
import EntityLayout.Proofs.Layout.Reordering
import EntityLayout.Proofs.Layout.Spelling
import EntityLayout.Proofs.Schema.DirectiveShapes
import EntityLayout.Proofs.Schema.Registrations
import EntityLayout.Proofs.Sdl.Diagnosis
import EntityLayout.Proofs.Sdl.Locality
import EntityLayout.Proofs.Sdl.Numbers
import EntityLayout.Proofs.StoreName.Canonical
import EntityLayout.Proofs.Calls
import EntityLayout.Proofs.Sdl.Progress
import EntityLayout.Proofs.Layout.Appending
import EntityLayout.Proofs.Sdl.Concatenation
import EntityLayout.Proofs.Sdl.RepeatedReading
