import RowPress.Json.Reader
import RowPress.Main
import RowPress.Proofs.Expansion
import RowPress.Proofs.Normal
import RowPress.Proofs.Rerunning
import RowPress.Proofs.Reordering
import RowPress.Proofs.Merging
import RowPress.Proofs.Recasting
import RowPress.Proofs.Record
import RowPress.Proofs.Configuration
import RowPress.Proofs.Spelling
import RowPress.Proofs.Arrangement
import RowPress.Proofs.Target
import RowPress.Proofs.Leaving
import RowPress.Proofs.Inputs
import RowPress.Proofs.Lexing
import RowPress.Proofs.Parsing
import RowPress.Proofs.Substitution
import RowPress.Proofs.Naming
import RowPress.Proofs.JsonScalar
import RowPress.Proofs.Column
import RowPress.Proofs.JsonText
import RowPress.Proofs.BasePath
import RowPress.Proofs.Recompiling
import RowPress.Proofs.Cleaning
import RowPress.Proofs.Quoting
import RowPress.Proofs.Typing
import RowPress.Proofs.Beside
import RowPress.Proofs.Keys
import RowPress.Proofs.Retyping
import RowPress.Proofs.Shape
