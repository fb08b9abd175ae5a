import Balancer.Layout.Section

/-!
# The written configuration

Sections are written in a fixed order of kinds, and in the order of the configuration within a
kind. Writing never fails and looks nothing up: names are written as they are given, and whether
they mean anything is a matter of `Configuration.findings`.
-/

namespace Balancer

open Layout

/-- The block of the process-wide settings: there is one if they are set, or if there are scripts
to load. -/
def Configuration.globalBlock (config : Configuration) : List Block :=
  if config.global.isSome || !config.scripts.isEmpty then
    [(config.global.getD {}).block config.scripts]
  else []

/-- **The blocks of a configuration**, in order. -/
def Configuration.blocks (config : Configuration) : List Block :=
  config.globalBlock ++ (config.defaults.map Defaults.block).toList ++
    config.peers.map Peers.block ++ config.resolvers.map Resolvers.block ++
    config.mailers.map Mailers.block ++ config.frontends.map Frontend.block ++
    config.backends.map Backend.block ++ config.listens.map Listen.block

/-- **The text of a configuration.** -/
def Configuration.text (config : Configuration) : String :=
  blocksText config.blocks

end Balancer
