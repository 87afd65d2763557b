import SpriteScript.Demo
import SpriteScript.JavaScript.Draft
import SpriteScript.Main
import SpriteScript.Program.Same
import SpriteScript.Proofs.Reading
import SpriteScript.Proofs.Preorder
import SpriteScript.Proofs.Printing
import SpriteScript.Proofs.RoundTrip
import SpriteScript.Proofs.Traversal
import SpriteScript.Proofs.Writability
import SpriteScript.Proofs.Generation
import SpriteScript.Proofs.Contents
import SpriteScript.Proofs.Totality
import SpriteScript.Proofs.Segmentation
import SpriteScript.Proofs.Reloading
import SpriteScript.Proofs.Forms
import SpriteScript.Proofs.Unfolding
import SpriteScript.Proofs.Rendering
import SpriteScript.Proofs.Interruption
import SpriteScript.Proofs.Joining
import SpriteScript.Proofs.Quotation
import SpriteScript.Proofs.Retention
import SpriteScript.Proofs.Relexing
import SpriteScript.Proofs.Suspension
import SpriteScript.Proofs.Counters
import SpriteScript.Proofs.Growth
import SpriteScript.Proofs.Delimiters
import SpriteScript.Proofs.Comments
import SpriteScript.Proofs.Escaping
import SpriteScript.Proofs.Wholeness
import SpriteScript.Proofs.Service
import SpriteScript.Proofs.Seams
import SpriteScript.Proofs.StringLiterals
import SpriteScript.Proofs.QuotedArguments
import SpriteScript.Proofs.Nesting
import SpriteScript.Proofs.LongestNumeral
import SpriteScript.Proofs.NumberTokens
import SpriteScript.Proofs.Walking
