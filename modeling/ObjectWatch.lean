import ObjectWatch.Main
import ObjectWatch.Proofs.Table
import ObjectWatch.Proofs.Value.Equality
import ObjectWatch.Proofs.Cache
import ObjectWatch.Proofs.Monitor.Run
import ObjectWatch.Proofs.Monitor.Calm
import ObjectWatch.Proofs.Monitor.Exact
import ObjectWatch.Proofs.Filter.Equality
import ObjectWatch.Proofs.Filter.Content
import ObjectWatch.Proofs.Monitor.Replay
import ObjectWatch.Proofs.Monitor.Shortcut
import ObjectWatch.Proofs.Value.Plain
import ObjectWatch.Proofs.Value.Text
import ObjectWatch.Proofs.Manifest
import ObjectWatch.Proofs.Manifest.Reading
import ObjectWatch.Proofs.Monitor.Nested
import ObjectWatch.Proofs.Monitor.Failing
import ObjectWatch.Proofs.Watcher
import ObjectWatch.Proofs.Manifest.Equality
import ObjectWatch.Proofs.Monitor.Detection
import ObjectWatch.Proofs.Watcher.Refusal
import ObjectWatch.Proofs.Watcher.Survival
import ObjectWatch.Proofs.Settings
import ObjectWatch.Proofs.Monitor.Delta
import ObjectWatch.Proofs.Monitor.Listing
import ObjectWatch.Proofs.Monitor.Cutoff
import ObjectWatch.Proofs.Filter.Verdict
import ObjectWatch.Proofs.Filter.Rendering
import ObjectWatch.Proofs.Filter.Grammar
import ObjectWatch.Proofs.Filter.Writing
import ObjectWatch.Proofs.Filter.Absence
import ObjectWatch.Proofs.Filter.Names
import ObjectWatch.Proofs.Filter.Duality
import ObjectWatch.Proofs.Monitor.Heedless
import ObjectWatch.Proofs.Watcher.Loop
import ObjectWatch.Proofs.Session
import ObjectWatch.Proofs.Monitor.Aimed
import ObjectWatch.Proofs.Monitor.Narrowing
import ObjectWatch.Proofs.Identity.Spelling
import ObjectWatch.Proofs.Manifest.Normal
import ObjectWatch.Proofs.Listing
import ObjectWatch.Proofs.Monitor.Lookup
import ObjectWatch.Proofs.Watcher.Registration
