import CommentDocs.Main
import CommentDocs.Proofs.Builder.Documented
import CommentDocs.Proofs.Html.Safety
import CommentDocs.Proofs.Html.Passes
import CommentDocs.Proofs.Comment.Cuts
import CommentDocs.Proofs.Comment.Scan
import CommentDocs.Proofs.Comment.Written
import CommentDocs.Proofs.Listing.Enumeration
import CommentDocs.Proofs.Json.Lossless
import CommentDocs.Proofs.Comment.Joint
import CommentDocs.Proofs.Comment.Closing
import CommentDocs.Proofs.Disk.ReadBack
import CommentDocs.Proofs.Run.Modes
import CommentDocs.Proofs.Builder.Independence
import CommentDocs.Proofs.Html.Links
import CommentDocs.Proofs.Disk.Creation
import CommentDocs.Proofs.Run.Pages
import CommentDocs.Proofs.Disk.Arrangement
import CommentDocs.Proofs.Run.Faults
import CommentDocs.Proofs.Run.Arguments
import CommentDocs.Proofs.Comment.Labels
import CommentDocs.Proofs.Builder.NormalForm
import CommentDocs.Proofs.Comment.Division
import CommentDocs.Proofs.Page.Cutting
import CommentDocs.Proofs.Html.Counts
import CommentDocs.Proofs.Markdown.Anchors
import CommentDocs.Proofs.Builder.Drops
import CommentDocs.Proofs.Comment.Conservation
import CommentDocs.Proofs.Comment.Indentation
import CommentDocs.Proofs.Html.Typesetting
import CommentDocs.Proofs.Page.Insertion
import CommentDocs.Proofs.Run.Specifications
import CommentDocs.Proofs.Listing.Targets
import CommentDocs.Proofs.Listing.Ties
import CommentDocs.Proofs.Markdown.Backslashes
