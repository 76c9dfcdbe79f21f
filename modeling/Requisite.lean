import Requisite.CommandLine.Run
import Requisite.Json.Writer
import Requisite.Main
import Requisite.Proofs.CommandLine.Outcome
import Requisite.Proofs.CommandLine.Override
import Requisite.Proofs.CommandLine.Run
import Requisite.Proofs.Extraction.Failure
import Requisite.Proofs.Extraction.Independence
import Requisite.Proofs.Extraction.MixedImports
import Requisite.Proofs.Extraction.Routes
import Requisite.Proofs.Extraction.StaticImports
import Requisite.Proofs.File.Label
import Requisite.Proofs.Options.Changes
import Requisite.Proofs.Options.Decoding
import Requisite.Proofs.Options.Fields
import Requisite.Proofs.Options.Reading
import Requisite.Proofs.Script.Callback
import Requisite.Proofs.Script.Decision
import Requisite.Proofs.Script.Define
import Requisite.Proofs.Script.Import
import Requisite.Proofs.Script.Interleaving
import Requisite.Proofs.Script.Unnoticed
import Requisite.Proofs.Session
import Requisite.Proofs.Stylesheet.Clause
import Requisite.Proofs.Stylesheet.CommentInsertion
import Requisite.Proofs.Stylesheet.Composition
import Requisite.Proofs.Stylesheet.Escapes
import Requisite.Proofs.Stylesheet.Positions
import Requisite.Proofs.Stylesheet.Progress
import Requisite.Proofs.Stylesheet.Relexing
import Requisite.Proofs.Stylesheet.Rendering
import Requisite.Proofs.Stylesheet.SpecifierPattern
import Requisite.Proofs.Stylesheet.Splitting
import Requisite.Session
