import ModuleCatalog.Catalog
import ModuleCatalog.CatalogJson
import ModuleCatalog.Command.Options
import ModuleCatalog.Command.Run
import ModuleCatalog.Encoding
import ModuleCatalog.Fallible
import ModuleCatalog.Json.Lexer
import ModuleCatalog.Json.Reader
import ModuleCatalog.Json.Value
import ModuleCatalog.Json.Writer
import ModuleCatalog.Main
import ModuleCatalog.ModuleName
import ModuleCatalog.Proofs.Attribute
import ModuleCatalog.Proofs.Attribution
import ModuleCatalog.Proofs.Book
import ModuleCatalog.Proofs.Contribution
import ModuleCatalog.Proofs.Declaration
import ModuleCatalog.Proofs.Fault
import ModuleCatalog.Proofs.Governor
import ModuleCatalog.Proofs.Outcome
import ModuleCatalog.Proofs.Place
import ModuleCatalog.Proofs.Rows
import ModuleCatalog.Source
import ModuleCatalog.SourceFile
import ModuleCatalog.Survey.Basic
import ModuleCatalog.Survey.Fault
import ModuleCatalog.Survey.Record
import ModuleCatalog.Survey.Visit
import ModuleCatalog.Tables
import ModuleCatalog.Text.CaseTable
import ModuleCatalog.Text.CodeRange
import ModuleCatalog.Text.Digit
import ModuleCatalog.Text.LetterCase
import ModuleCatalog.Text.PrintTable
import ModuleCatalog.Text.Quoted
import ModuleCatalog.Text.Search
import ModuleCatalog.Text.WordCharacter
import ModuleCatalog.Text.WordTable
import ModuleCatalog.Tree.Node
import ModuleCatalog.Tree.NodeJson
import ModuleCatalog.Tree.NodeKind
import ModuleCatalog.Tree.Traversal
import ModuleCatalog.Xml.Character
import ModuleCatalog.Xml.Content
import ModuleCatalog.Xml.Doctype
import ModuleCatalog.Xml.Document
import ModuleCatalog.Xml.Entity
import ModuleCatalog.Xml.Fault
import ModuleCatalog.Xml.Item
import ModuleCatalog.Xml.Namespace
import ModuleCatalog.Xml.Reference
import ModuleCatalog.Xml.Scan
import ModuleCatalog.Proofs.Listing
import ModuleCatalog.Proofs.Exports
import ModuleCatalog.Proofs.UseClauses
import ModuleCatalog.Proofs.Imports
import ModuleCatalog.Proofs.Reordering
import ModuleCatalog.Proofs.LetterCase
import ModuleCatalog.Proofs.Likeness
import ModuleCatalog.Proofs.Gap
import ModuleCatalog.Proofs.Respelling
import ModuleCatalog.Proofs.Wrapping
import ModuleCatalog.Proofs.Earlier
import ModuleCatalog.Proofs.Growth
import ModuleCatalog.Proofs.Removal
import ModuleCatalog.Proofs.Grammar
import ModuleCatalog.Proofs.Lexing
import ModuleCatalog.Proofs.Layout
import ModuleCatalog.Proofs.Members
import ModuleCatalog.Proofs.Reading
import ModuleCatalog.Proofs.TreeText
import ModuleCatalog.Proofs.Rendering
import ModuleCatalog.Proofs.Distinction
import ModuleCatalog.Proofs.Markup
import ModuleCatalog.Proofs.ElementText
import ModuleCatalog.Proofs.DocumentText
import ModuleCatalog.Proofs.NormalForm
import ModuleCatalog.Proofs.ProjectDirectory
import ModuleCatalog.Proofs.CanonicalText
import ModuleCatalog.Proofs.AllOrNothing
import ModuleCatalog.Proofs.FileName
import ModuleCatalog.Proofs.DirectorySlices
import ModuleCatalog.Proofs.NestedDeclaration
import ModuleCatalog.Proofs.StackWalk
import ModuleCatalog.Proofs.Arguments
import ModuleCatalog.Proofs.SourcePaths
import ModuleCatalog.Proofs.EnclosingUnit
import ModuleCatalog.Proofs.Variants
import ModuleCatalog.Proofs.Extension
